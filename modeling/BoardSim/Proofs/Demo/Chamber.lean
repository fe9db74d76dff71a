import BoardSim.Command.Run
import BoardSim.Proofs.Bus.Word
import BoardSim.Proofs.Can.Run
import BoardSim.Proofs.Simulator.Program

/-!
# The devices of the growth chamber

The bus of the built-in board, device by device. A word access to a register acts on one of them,
whatever the rest of the simulator is; `Place.ends_writeWord` and `Place.ends_readWord` say so of
the programs that firmware and handlers are made of.
-/

namespace BoardSim

namespace Device

/-- Only a scratch peripheral asks for lines that are not its own. -/
theorem explicit_advance {d : Device} (own : ∀ s, d ≠ .scratch s) (nanos : Nat) :
    (d.advance nanos).2.explicit = [] := by
  cases d with
  | uart u => rfl
  | timer t => rfl
  | adc a =>
    show (a.advance nanos).2.explicit = []
    unfold Adc.advance
    dsimp only
    split
    · rfl
    · split <;> rfl
  | rtc r =>
    show (r.advance nanos).2.explicit = []
    unfold Rtc.advance
    dsimp only
    split
    · rfl
    · unfold Rtc.run
      dsimp only
      split <;> rfl
  | spi s =>
    show (s.advance nanos).2.explicit = []
    unfold Spi.advance
    split <;> rfl
  | sysTick s =>
    show (s.advance nanos).2.explicit = []
    unfold SysTick.advance
    dsimp only
    split
    · rfl
    · unfold SysTick.count
      dsimp only
      split
      · rfl
      · split <;> rfl
  | can c =>
    show (c.advance nanos).2.explicit = []
    rw [Can.Controller.advance_eq]
    split
    · rfl
    · rfl
    · rfl
    all_goals
      unfold Can.Controller.exchange
      split
      · rfl
      · split <;> rfl
  | view v => rfl
  | scratch s => exact absurd rfl (own s)

end Device

namespace Demo

structure Chamber where
  nvic : InterruptView
  systick : SysTick
  tim2 : Timer
  rtc : Rtc
  adc1 : Adc
  spi1 : Spi
  usart1 : Uart
  can1 : Can.Controller
  can2 : Can.Controller

namespace Chamber

def entries (c : Chamber) : Array Entry := #[
  { name := "nvic", base := 0xE000E100, size := 0x400, irq := none, device := .view c.nvic },
  { name := "systick", base := 0xE000E010, size := 0x10, irq := some 15,
    device := .sysTick c.systick },
  { name := "tim2", base := 0x40000000, size := 0x400, irq := some 28, device := .timer c.tim2 },
  { name := "rtc", base := 0x40002800, size := 0x400, irq := some 3, device := .rtc c.rtc },
  { name := "adc1", base := 0x40012400, size := 0x400, irq := some 18, device := .adc c.adc1 },
  { name := "spi1", base := 0x40013000, size := 0x400, irq := some 35, device := .spi c.spi1 },
  { name := "usart1", base := 0x40013800, size := 0x400, irq := some 37,
    device := .uart c.usart1 },
  { name := "can1", base := 0x40024000, size := 0x1000, irq := some 20, device := .can c.can1 },
  { name := "can2", base := 0x40025000, size := 0x1000, irq := some 21, device := .can c.can2 }]

def map : AddressMap := [
  ⟨0x40000000, 0x40000400, 2⟩, ⟨0x40002800, 0x40002C00, 3⟩, ⟨0x40012400, 0x40012800, 4⟩,
  ⟨0x40013000, 0x40013400, 5⟩, ⟨0x40013800, 0x40013C00, 6⟩, ⟨0x40024000, 0x40025000, 7⟩,
  ⟨0x40025000, 0x40026000, 8⟩, ⟨0xE000E010, 0xE000E020, 1⟩, ⟨0xE000E100, 0xE000E500, 0⟩]

def on (c : Chamber) (bus : Bus) : Bus := { bus with entries := c.entries, map }

end Chamber

def holding (s : Simulator Stats) (c : Chamber) (memory : Stats) : Simulator Stats :=
  { s with bus := c.on s.bus, memory }

-- ---------------------------------------------------------------------------
-- Places
-- ---------------------------------------------------------------------------

/-- Where a peripheral stands on the bus that an access to the interrupt controller does not
concern. -/
structure Place (δ : Type) [Peripheral δ] where
  index : Nat
  layout : BoardSim.Layout
  get : Chamber → δ
  set : Chamber → δ → Chamber
  device : δ → Device
  layout_eq : ∀ d : δ, Peripheral.layout d = layout
  settle_eq : ∀ (d : δ) (i : Nat), Peripheral.settle d i = d
  layout_device : ∀ d, (device d).layout = Peripheral.layout d
  apply_device : ∀ {β : Type} (d : δ) (controller : InterruptController)
    (f : (δ : Type) → [Peripheral δ] → δ → β × δ),
    (device d).apply controller f = ((f δ d).1, device (f δ d).2, controller)
  here : ∀ c, ∃ e, c.entries[index]? = some e ∧ e.device = device (get c) ∧
    ∀ d, c.entries.setIfInBounds index { e with device := device d } = (set c d).entries

namespace Place

def tim2 : Place Timer where
  index := 2
  layout := Timer.layout
  get := Chamber.tim2
  set c tim2 := { c with tim2 }
  device := .timer
  layout_eq _ := rfl
  settle_eq := fun _ =>
    Peripheral.settle_of_keep (show ∀ r ∈ Timer.layout, r.onRead = .keep by decide)
  layout_device _ := rfl
  apply_device _ _ _ := rfl
  here _ := ⟨_, rfl, rfl, fun _ => rfl⟩

def adc1 : Place Adc where
  index := 4
  layout := Adc.layout
  get := Chamber.adc1
  set c adc1 := { c with adc1 }
  device := .adc
  layout_eq _ := rfl
  settle_eq := fun _ =>
    Peripheral.settle_of_keep (show ∀ r ∈ Adc.layout, r.onRead = .keep by decide)
  layout_device _ := rfl
  apply_device _ _ _ := rfl
  here _ := ⟨_, rfl, rfl, fun _ => rfl⟩

def usart1 : Place Uart where
  index := 6
  layout := Uart.layout
  get := Chamber.usart1
  set c usart1 := { c with usart1 }
  device := .uart
  layout_eq _ := rfl
  settle_eq := fun _ =>
    Peripheral.settle_of_keep (show ∀ r ∈ Uart.layout, r.onRead = .keep by decide)
  layout_device _ := rfl
  apply_device _ _ _ := rfl
  here _ := ⟨_, rfl, rfl, fun _ => rfl⟩

def can1 : Place Can.Controller where
  index := 7
  layout := Can.Controller.layout
  get := Chamber.can1
  set c can1 := { c with can1 }
  device := .can
  layout_eq _ := rfl
  settle_eq := Can.Controller.settle_eq
  layout_device _ := rfl
  apply_device _ _ _ := rfl
  here _ := ⟨_, rfl, rfl, fun _ => rfl⟩

def registerAt? {δ : Type} [Peripheral δ] (P : Place δ) (address : UInt64) : Option Nat := do
  let (index, offset) ← Chamber.map.resolve address
  if index = P.index ∧ offset % 4 = 0 then P.layout.indexOf? offset else none

section
open MonadCall Programs
variable {δ : Type} [Peripheral δ] {P : Place δ} {address : UInt64} {i : Nat}

theorem runs (h : P.registerAt? address = some i) (c : Chamber) (bus : Bus) :
    ∃ e, (c.on bus).Runs address P.index e i ∧ e.device = P.device (P.get c) ∧
      ∀ d, (c.on bus).replace P.index e (P.device d) bus.controller = (P.set c d).on bus := by
  obtain ⟨⟨index, offset⟩, resolved, here⟩ := Option.bind_eq_some_iff.1 h
  obtain ⟨⟨rfl, aligned⟩, found⟩ := Option.ite_none_right_eq_some.1 here
  obtain ⟨e, here, device, replaced⟩ := P.here c
  have known : e.device.layout.indexOf? offset = some i := by
    rwa [device, P.layout_device, P.layout_eq]
  have runs : (c.on bus).Runs address P.index e i :=
    Bus.runs_of_resolve resolved here aligned known
  refine ⟨e, runs, device, fun d => ?_⟩
  unfold Bus.replace Chamber.on
  simp only [replaced]

theorem write (h : P.registerAt? address = some i) (c : Chamber) (bus : Bus) (word : UInt32) :
    (c.on bus).access address .word .write word.toUInt64 =
      (0, (P.set c (Peripheral.commit (P.get c) i word)).on bus) := by
  obtain ⟨e, runs, device, replaced⟩ := P.runs h c bus
  rw [runs.write, UInt32.toUInt32_toUInt64, Device.writeRegister, device, P.apply_device]
  exact congrArg (Prod.mk 0) (replaced _)

theorem read (h : P.registerAt? address = some i) (c : Chamber) (bus : Bus) :
    (c.on bus).access address .word .read 0 =
      ((Peripheral.fetch (P.get c) i).1.toUInt64,
        (P.set c (Peripheral.fetch (P.get c) i).2).on bus) := by
  obtain ⟨e, runs, device, replaced⟩ := P.runs h c bus
  rw [runs.read, Device.readRegister, device, P.apply_device]
  simp only [P.settle_eq]
  exact congrArg (Prod.mk _) (replaced _)

variable {m : Type → Type} [Monad m] [MonadCall Stats m] [Programs Stats m]
  {s : Simulator Stats} (alive : s.stuck = false)
include alive

theorem ends_writeWord (h : P.registerAt? address = some i) (c : Chamber) (memory : Stats)
    (word : UInt32) :
    Ends (writeWord address word : m Unit) (holding s c memory) ()
      (holding s (P.set c (Peripheral.commit (P.get c) i word)) memory) :=
  Programs.ends_writeWord (s := holding s c memory) alive (write h c s.bus word)

theorem ends_readWord (h : P.registerAt? address = some i) (c : Chamber) (memory : Stats) :
    Ends (readWord address : m UInt32) (holding s c memory) (Peripheral.fetch (P.get c) i).1
      (holding s (P.set c (Peripheral.fetch (P.get c) i).2) memory) :=
  Programs.ends_readWord (s := holding s c memory) alive (read h c s.bus)

theorem ends_modifyWord (h : P.registerAt? address = some i) (c : Chamber) (memory : Stats)
    (clear set : UInt32) :
    let read := P.set c (Peripheral.fetch (P.get c) i).2
    Ends (modifyWord address clear set : m Unit) (holding s c memory) ()
      (holding s (P.set read (Peripheral.commit (P.get read) i
        (((Peripheral.fetch (P.get c) i).1 &&& ~~~clear) ||| set))) memory) :=
  ends_bind (ends_readWord alive h c memory) (ends_writeWord alive h _ memory _)

end

end Place

-- ---------------------------------------------------------------------------
-- Where firmware finds them
-- ---------------------------------------------------------------------------

def chamberLayout : Layout where
  enableBase := 0xE000E100
  console := { sr := 0x40013800, dr := 0x40013804, brr := 0x40013808, cr1 := 0x4001380C }
  timer := { cr1 := 0x40000000, dier := 0x4000000C, sr := 0x40000010, psc := 0x40000028,
             arr := 0x4000002C }
  timerLine := 28
  adc := { cr1 := 0x40012404, cr2 := 0x40012408, sqr3 := 0x40012434, dr := 0x4001244C }
  adcLine := 18
  canBase := 0x40024000
  canLine := 20
  statusEvery := 1000

theorem tim2_registers : let l := chamberLayout.timer
    Place.tim2.registerAt? l.cr1 = some Timer.cr1 ∧
      Place.tim2.registerAt? l.dier = some Timer.dier ∧
      Place.tim2.registerAt? l.sr = some Timer.sr ∧ Place.tim2.registerAt? l.psc = some Timer.psc ∧
      Place.tim2.registerAt? l.arr = some Timer.arr := by
  decide +kernel

theorem adc1_registers : let l := chamberLayout.adc
    Place.adc1.registerAt? l.cr1 = some Adc.cr1 ∧ Place.adc1.registerAt? l.cr2 = some Adc.cr2 ∧
      Place.adc1.registerAt? l.sqr3 = some Adc.sqr3 ∧
      Place.adc1.registerAt? l.dr = some Adc.dr := by
  decide +kernel

theorem usart1_registers : let l := chamberLayout.console
    Place.usart1.registerAt? l.sr = some Uart.sr ∧ Place.usart1.registerAt? l.dr = some Uart.dr ∧
      Place.usart1.registerAt? l.brr = some Uart.brr ∧
      Place.usart1.registerAt? l.cr1 = some Uart.cr1 := by
  decide +kernel

theorem can1_registers : let l := chamberLayout
    Place.can1.registerAt? (l.canBase + Can.Offset.mcr) = some Can.Controller.mcr ∧
      Place.can1.registerAt? (l.canBase + Can.Offset.globalMask) =
        some Can.Controller.globalMask ∧
      Place.can1.registerAt? (l.canBase + Can.Offset.imask1) = some Can.Controller.imask1 ∧
      Place.can1.registerAt? (l.canBase + Can.Offset.iflag1) = some Can.Controller.iflag1 := by
  decide +kernel

theorem rxBuffer_registers : let buffer := chamberLayout.bufferAddress rxBuffer
    Place.can1.registerAt? buffer = some (Can.Controller.csWord rxBuffer) ∧
      Place.can1.registerAt? (buffer + 4) = some (Can.Controller.idWord rxBuffer) ∧
      Place.can1.registerAt? (buffer + 8) = some (Can.Controller.data0Word rxBuffer) := by
  decide +kernel

theorem txBuffer_registers : let buffer := chamberLayout.bufferAddress txBuffer
    Place.can1.registerAt? buffer = some (Can.Controller.csWord txBuffer) ∧
      Place.can1.registerAt? (buffer + 4) = some (Can.Controller.idWord txBuffer) ∧
      Place.can1.registerAt? (buffer + 8) = some (Can.Controller.data0Word txBuffer) := by
  decide +kernel

-- ---------------------------------------------------------------------------
-- Simulated time and the host
-- ---------------------------------------------------------------------------

namespace Chamber

/-- The devices after a step; what they traced is on the bus. -/
def advance (c : Chamber) (nanos : Nat) : Chamber where
  nvic := c.nvic
  systick := (c.systick.advance nanos).1
  tim2 := (c.tim2.advance nanos).1
  rtc := (c.rtc.advance nanos).1
  adc1 := (c.adc1.advance nanos).1
  spi1 := (c.spi1.advance nanos).1
  usart1 := (c.usart1.advance nanos).1
  can1 := (c.can1.advance nanos).1.takeTrace.2
  can2 := (c.can2.advance nanos).1.takeTrace.2

theorem entries_advance (c : Chamber) (nanos : Nat) :
    c.entries.map (fun e => (Bus.advanceEntry nanos e).1) = (c.advance nanos).entries := by
  unfold entries
  rw [List.map_toArray]
  rfl

def requested (c : Chamber) (nanos : Nat) : List UInt32 :=
  c.entries.toList.flatMap fun e => Bus.requestedLines e.irq (e.device.advance nanos).2

theorem mem_requestedLines_of_own {d : Device} (own : ∀ s, d ≠ .scratch s) (nanos : Nat)
    {line other : UInt32} :
    other ∈ Bus.requestedLines (some line) (d.advance nanos).2 ↔
      (d.advance nanos).2.irq = true ∧ other = line := by
  rw [Bus.mem_requestedLines, Device.explicit_advance own]
  simp only [Option.some.injEq, List.not_mem_nil, or_false]
  exact and_congr_right fun _ => eq_comm

theorem mem_requested (c : Chamber) (nanos : Nat) :
    (18 ∈ c.requested nanos ↔ (c.adc1.advance nanos).2.irq = true) ∧
      (20 ∈ c.requested nanos ↔ (c.can1.advance nanos).2.irq = true) ∧
      (28 ∈ c.requested nanos ↔ (c.tim2.advance nanos).2.irq = true) := by
  have unowned : Bus.requestedLines none ((Device.view c.nvic).advance nanos).2 = [] := rfl
  unfold requested entries
  simp only [List.flatMap_cons, List.flatMap_nil, List.mem_append, unowned, List.not_mem_nil,
    mem_requestedLines_of_own, ne_eq, reduceCtorEq, not_false_eq_true, implies_true]
  refine ⟨?_, ?_, ?_⟩ <;> simp <;> rfl

theorem onCanBus?_zero {c : Chamber} {β : Type} (first : c.can1.bus = 0) (bus : Bus)
    (f : Can.Controller → β × Can.Controller) :
    (c.on bus).onCanBus? 0 f =
      some ((f c.can1).1, { c with can1 := (f c.can1).2 }.on bus) := by
  have index : (c.on bus).canIndex? 0 = some 7 := by
    unfold Bus.canIndex? Chamber.on entries
    rw [List.findIdx?_toArray]
    simp [List.findIdx?_cons, first]
  rw [Bus.onCanBus?, index]
  rfl

end Chamber

end Demo

end BoardSim
