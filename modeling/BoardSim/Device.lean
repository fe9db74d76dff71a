import BoardSim.Peripheral.Uart
import BoardSim.Peripheral.Timer
import BoardSim.Peripheral.Adc
import BoardSim.Peripheral.Rtc
import BoardSim.Peripheral.Spi
import BoardSim.Peripheral.SysTick
import BoardSim.Peripheral.Scratch
import BoardSim.Can.Controller
import BoardSim.Interrupt.View

/-!
# Devices

The peripherals a board can carry, as one type. `Device.apply` runs any operation of the register
interface on whichever peripheral it is; a view of the interrupt controller works on the
controller's state, every other device leaves that alone.
-/

namespace BoardSim

inductive Device where
  | uart (u : Uart)
  | timer (t : Timer)
  | adc (a : Adc)
  | rtc (r : Rtc)
  | spi (s : Spi)
  | sysTick (s : SysTick)
  | can (c : Can.Controller)
  | view (v : InterruptView)
  | scratch (s : Scratch)

namespace Device

variable {β : Type}

def apply (d : Device) (controller : InterruptController)
    (f : (δ : Type) → [Peripheral δ] → δ → β × δ) : β × Device × InterruptController :=
  match d with
  | uart u => let (b, u) := f _ u; (b, uart u, controller)
  | timer t => let (b, t) := f _ t; (b, timer t, controller)
  | adc a => let (b, a) := f _ a; (b, adc a, controller)
  | rtc r => let (b, r) := f _ r; (b, rtc r, controller)
  | spi s => let (b, s) := f _ s; (b, spi s, controller)
  | sysTick s => let (b, s) := f _ s; (b, sysTick s, controller)
  | can c => let (b, c) := f _ c; (b, can c, controller)
  | view v =>
    let (b, m) := f MappedController ⟨v, controller⟩
    (b, view m.view, m.controller)
  | scratch s => let (b, s) := f _ s; (b, scratch s, controller)

def access (d : Device) (controller : InterruptController) (offset : UInt64) (size : AccessSize)
    (direction : Direction) (payload : UInt64) : UInt64 × Device × InterruptController :=
  d.apply controller fun _ _ d => Peripheral.access d offset size direction payload

def read (d : Device) (controller : InterruptController) (offset : UInt64) :
    UInt32 × Device × InterruptController :=
  d.apply controller fun _ _ d => Peripheral.read d offset

/-- Write the register at exactly `offset`. -/
def write (d : Device) (controller : InterruptController) (offset : UInt64) (word : UInt32) :
    Device × InterruptController :=
  (d.apply controller fun _ _ d => ((), Peripheral.write d offset word)).2

def layout : Device → Layout
  | uart _ => Uart.layout
  | timer _ => Timer.layout
  | adc _ => Adc.layout
  | rtc _ => Rtc.layout
  | spi _ => Spi.layout
  | sysTick _ => SysTick.layout
  | can _ => Can.Controller.layout
  | view v => InterruptView.layout v.banks
  | scratch s => s.layout

/-- The word register `i` holds, which need not be the one a read returns. -/
def held (d : Device) (i : Nat) : UInt32 :=
  (d.apply (.withLines 0) fun _ _ d => (Peripheral.held d i, d)).1

def put (d : Device) (i : Nat) (word : UInt32) : Device :=
  (d.apply (.withLines 0) fun _ _ d => ((), Peripheral.put d i word)).2.1

/-- Apply `f` to the description of register `i` and the word it holds, and hold the result. -/
def modifyRegister (d : Device) (i : Nat) (f : Register → UInt32 → UInt32) : Device :=
  match d.layout[i]? with
  | some r => d.put i (f r (d.held i))
  | none => d

/-- One step of `nanos` simulated nanoseconds. -/
def advance (d : Device) (nanos : Nat) : Device × TickResult :=
  match d with
  | uart u => (u.advance nanos).map uart id
  | timer t => (t.advance nanos).map timer id
  | adc a => (a.advance nanos).map adc id
  | rtc r => (r.advance nanos).map rtc id
  | spi s => (s.advance nanos).map spi id
  | sysTick s => (s.advance nanos).map sysTick id
  | can c => (c.advance nanos).map can id
  | view v => (view v, .quiet)
  | scratch s => (s.advance nanos).map scratch id

-- ---------------------------------------------------------------------------
-- One kind of device
-- ---------------------------------------------------------------------------

def onUart? (d : Device) (f : Uart → β × Uart) : Option (β × Device) :=
  match d with
  | uart u => some ((f u).map id uart)
  | _ => none

def onAdc? (d : Device) (f : Adc → β × Adc) : Option (β × Device) :=
  match d with
  | adc a => some ((f a).map id adc)
  | _ => none

def onSpi? (d : Device) (f : Spi → β × Spi) : Option (β × Device) :=
  match d with
  | spi s => some ((f s).map id spi)
  | _ => none

def onRtc? (d : Device) (f : Rtc → β × Rtc) : Option (β × Device) :=
  match d with
  | rtc r => some ((f r).map id rtc)
  | _ => none

def onCan? (d : Device) (f : Can.Controller → β × Can.Controller) : Option (β × Device) :=
  match d with
  | can c => some ((f c).map id can)
  | _ => none

def isView : Device → Bool
  | view _ => true
  | _ => false

end Device

end BoardSim
