import BoardSim.Peripheral
import BoardSim.TickClock

/-!
# System tick timer

A 24-bit down-counter. From zero it reloads, which sets `COUNTFLAG`; reading the control register
clears the flag. `SysTick.count` handles all the cycles of one step at once.
-/

namespace BoardSim

namespace SysTick

abbrev csr : Nat := 0
abbrev rvr : Nat := 1
abbrev cvr : Nat := 2
abbrev calib : Nat := 3

/-- `CSR`: the counter runs. -/
abbrev enable : UInt32 := 0x1
/-- `CSR`: a reload requests the interrupt. -/
abbrev tickint : UInt32 := 0x2
/-- `CSR`: the counter has reloaded since the last read. -/
abbrev countflag : UInt32 := 0x10000

def layout : Layout := [
  { name := "CSR", offset := 0x00, writable := 0x7, onRead := .clear countflag },
  { name := "RVR", offset := 0x04, writable := 0xFFFFFF },
  { name := "CVR", offset := 0x08, writable := 0xFFFFFF },
  { name := "CALIB", offset := 0x0C, reset := 0x40000000, writable := 0 }]

def defaultHz : UInt64 := 48000000

end SysTick

structure SysTick where
  regs : RegisterFile SysTick.layout := .reset _
  clock : TickClock := { hz := SysTick.defaultHz }

namespace SysTick

def withClock (hz : UInt64) : SysTick := { clock := { hz } }

/-- Any write to `CVR` clears the counter and `COUNTFLAG`. -/
def commit (s : SysTick) (i : Nat) (word : UInt32) : SysTick :=
  if i = cvr then { s with regs := (s.regs.set cvr 0).clearBits csr countflag }
  else { s with regs := s.regs.store i word }

instance : Peripheral SysTick where
  layout _ := layout
  held s i := s.regs.get i
  put s i word := { s with regs := s.regs.set i word }
  commit := commit

def count (s : SysTick) (cycles : UInt64) : SysTick × TickResult :=
  let current := (s.regs.get cvr).toUInt64
  let reload := (s.regs.get rvr).toUInt64
  if cycles ≤ current then
    ({ s with regs := s.regs.set cvr (current - cycles).toUInt32 }, .quiet)
  else if reload = 0 then ({ s with regs := s.regs.set cvr 0 }, .quiet)
  else
    let past := (cycles - current - 1) % (reload + 1)
    let irq := anySet (s.regs.get csr) tickint
    ({ s with regs := (s.regs.set cvr (reload - past).toUInt32).setBits csr countflag }, .line irq)

def advance (s : SysTick) (nanos : Nat) : SysTick × TickResult :=
  let (cycles, clock) := s.clock.advance nanos
  let s := { s with clock }
  if !anySet (s.regs.get csr) enable || cycles == 0 then (s, .quiet) else s.count cycles

end SysTick

end BoardSim
