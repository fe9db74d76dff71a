import BoardSim.Peripheral
import BoardSim.TickClock

/-!
# General-purpose timer

An up-counter behind a prescaler. `CNT` advances once every `PSC + 1` clock cycles and wraps to
zero after `ARR`; the wrap is the update event, which latches `UIF`. `Timer.count` handles all the
cycles of one step at once.
-/

namespace BoardSim

namespace Timer

abbrev cr1 : Nat := 0
abbrev dier : Nat := 1
abbrev sr : Nat := 2
abbrev egr : Nat := 3
abbrev cnt : Nat := 4
abbrev psc : Nat := 5
abbrev arr : Nat := 6

/-- `CR1`: the counter runs. -/
abbrev cen : UInt32 := 0x1
/-- `CR1`: the counter stops at the update event. -/
abbrev opm : UInt32 := 0x8
/-- `DIER`: the update event requests the interrupt. -/
abbrev uie : UInt32 := 0x1
/-- `SR`: an update event has happened. -/
abbrev uif : UInt32 := 0x1
/-- `EGR`: force an update event. -/
abbrev ug : UInt32 := 0x1

def layout : Layout := [
  { name := "CR1", offset := 0x00, writable := 0x3FF },
  { name := "DIER", offset := 0x0C, writable := 0x5F },
  { name := "SR", offset := 0x10, writable := 0x1FFFF, onWrite := .clearZeros },
  { name := "EGR", offset := 0x14, writable := 0xFF },
  { name := "CNT", offset := 0x24, writable := 0xFFFF },
  { name := "PSC", offset := 0x28, writable := 0xFFFF },
  { name := "ARR", offset := 0x2C, reset := 0xFFFF, writable := 0xFFFF }]

def defaultHz : UInt64 := 1000000

end Timer

structure Timer where
  regs : RegisterFile Timer.layout := .reset _
  clock : TickClock := { hz := Timer.defaultHz }
  /-- Clock cycles since the last count. -/
  phase : UInt32 := 0

namespace Timer

def withClock (hz : UInt64) : Timer := { clock := { hz } }

/-- The interrupt is requested as long as `UIF` and `UIE` are set. -/
def requests (t : Timer) : Bool := anySet (t.regs.get sr) uif && anySet (t.regs.get dier) uie

/-- `EGR` is write-only. -/
def fetch (t : Timer) (i : Nat) : UInt32 × Timer := (if i = egr then 0 else t.regs.get i, t)

/-- The update event that firmware forces: counter and prescaler start over. -/
def generate (t : Timer) : Timer :=
  { t with regs := (((t.regs.set cnt 0).setBits sr uif).set egr 0), phase := 0 }

def commit (t : Timer) (i : Nat) (word : UInt32) : Timer :=
  let t := { t with regs := t.regs.store i word }
  if i = egr ∧ anySet word ug then t.generate else t

instance : Peripheral Timer where
  layout _ := layout
  held t i := t.regs.get i
  put t i word := { t with regs := t.regs.set i word }
  fetch := fetch
  commit := commit

def count (t : Timer) (cycles : UInt64) : Timer :=
  let prescale := (t.regs.get psc).toUInt64 + 1
  let total := t.phase.toUInt64 + cycles
  let period := (t.regs.get arr).toUInt64 + 1
  -- Where the counter would be if it never wrapped.
  let reached := (t.regs.get cnt).toUInt64 + total / prescale
  let t := { t with phase := (total % prescale).toUInt32 }
  if reached < period then { t with regs := t.regs.set cnt reached.toUInt32 }
  else
    let regs := (t.regs.set cnt (reached % period).toUInt32).setBits sr uif
    if anySet (regs.get cr1) opm then { t with regs := (regs.clearBits cr1 cen).set cnt 0 }
    else { t with regs }

def advance (t : Timer) (nanos : Nat) : Timer × TickResult :=
  let (cycles, clock) := t.clock.advance nanos
  let t := { t with clock }
  let t := if !anySet (t.regs.get cr1) cen || cycles == 0 then t else t.count cycles
  (t, .line t.requests)

end Timer

end BoardSim
