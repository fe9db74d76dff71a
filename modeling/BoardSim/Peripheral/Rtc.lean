import BoardSim.Peripheral
import BoardSim.TickClock

/-!
# Real-time clock

A 32-bit counter of seconds behind a 20-bit down-counting divider. Firmware sees the wide values
as pairs of 16-bit registers, and may change them in configuration mode only, while the counter
stands still. `Rtc.run` handles all the cycles of one step at once.
-/

namespace BoardSim

namespace Rtc

@[match_pattern] abbrev crh : Nat := 0
@[match_pattern] abbrev crl : Nat := 1
@[match_pattern] abbrev prlh : Nat := 2
@[match_pattern] abbrev prll : Nat := 3
@[match_pattern] abbrev divh : Nat := 4
@[match_pattern] abbrev divl : Nat := 5
@[match_pattern] abbrev cnth : Nat := 6
@[match_pattern] abbrev cntl : Nat := 7
@[match_pattern] abbrev alrh : Nat := 8
@[match_pattern] abbrev alrl : Nat := 9

/-- `CRL`: a second has passed. -/
abbrev secf : UInt32 := 0x1
/-- `CRL`: the counter has reached the alarm. -/
abbrev alrf : UInt32 := 0x2
/-- `CRL`: the counter has overflowed. -/
abbrev owf : UInt32 := 0x4
/-- `CRL`: the registers are synchronised. -/
abbrev rsf : UInt32 := 0x8
/-- `CRL`: configuration mode. -/
abbrev cnf : UInt32 := 0x10
/-- `CRL`: the last write is finished. -/
abbrev rtoff : UInt32 := 0x20
/-- `CRL`: the bits that a written 0 clears. -/
abbrev flags : UInt32 := 0xF

def layout : Layout := [
  { name := "CRH", offset := 0x00, writable := 0x7 },
  { name := "CRL", offset := 0x04, reset := rtoff },
  { name := "PRLH", offset := 0x08 },
  { name := "PRLL", offset := 0x0C },
  { name := "DIVH", offset := 0x10 },
  { name := "DIVL", offset := 0x14 },
  { name := "CNTH", offset := 0x18 },
  { name := "CNTL", offset := 0x1C },
  { name := "ALRH", offset := 0x20 },
  { name := "ALRL", offset := 0x24 }]

def defaultHz : UInt64 := 32768

end Rtc

structure Rtc where
  regs : RegisterFile Rtc.layout := .reset _
  clock : TickClock := { hz := Rtc.defaultHz }
  /-- Divider reload value. -/
  prl : UInt32 := 0x8000
  /-- Divider: cycles left before the next second. -/
  div : UInt32 := 0x8000
  cnt : UInt32 := 0
  alr : UInt32 := 0xFFFFFFFF

namespace Rtc

def withClock (hz : UInt64) : Rtc := { clock := { hz } }

def highHalf (word : UInt32) : UInt32 := word >>> 16

def lowHalf (word : UInt32) : UInt32 := word &&& 0xFFFF

def setHigh (word half : UInt32) : UInt32 := (word &&& 0xFFFF) ||| (half <<< (16 : UInt32))

def setLow (word half : UInt32) : UInt32 := (word &&& 0xFFFF0000) ||| (half &&& 0xFFFF)

def configuring (r : Rtc) : Bool := anySet (r.regs.get crl) cnf

/-- The divider and the counter read as they are, reload value and alarm are write-only. -/
def view (r : Rtc) (i : Nat) : UInt32 :=
  match i with
  | prlh | prll | alrh | alrl => 0
  | divh => highHalf r.div &&& 0xF
  | divl => lowHalf r.div
  | cnth => highHalf r.cnt
  | cntl => lowHalf r.cnt
  | _ => r.regs.get i

/-- A written 0 clears a flag, `CNF` takes the written bit and `RTOFF` is read-only. -/
def writeControl (r : Rtc) (word : UInt32) : Rtc :=
  let held := r.regs.get crl
  { r with
    regs := r.regs.set crl ((held &&& word &&& flags) ||| (word &&& cnf) ||| (held &&& rtoff)) }

/-- A write in configuration mode to one of the protected halves. -/
def writeProtected (r : Rtc) (i : Nat) (word : UInt32) : Rtc :=
  match i with
  | prlh => { r with prl := setHigh r.prl (word &&& 0xF) }
  | prll => { r with prl := setLow r.prl word }
  | cnth => { r with cnt := setHigh r.cnt word }
  | cntl => { r with cnt := setLow r.cnt word }
  | alrh => { r with alr := setHigh r.alr word }
  | alrl => { r with alr := setLow r.alr word }
  | _ => r

def commit (r : Rtc) (i : Nat) (word : UInt32) : Rtc :=
  if i = crl then r.writeControl word
  else if i = crh then { r with regs := r.regs.store crh word }
  else if r.configuring then r.writeProtected i word
  else r

instance : Peripheral Rtc where
  layout _ := layout
  held r i := r.regs.get i
  put r i word := { r with regs := r.regs.set i word }
  fetch r i := (r.view i, r)
  commit := commit

/-- The divider after `cycles` cycles, and how many seconds have passed. -/
def divide (r : Rtc) (cycles : UInt64) : UInt32 × UInt64 :=
  let div := r.div.toUInt64
  if cycles ≤ div then ((div - cycles).toUInt32, 0)
  else
    -- The divider passes zero after `div + 1` cycles, and then once in a period.
    let period := r.prl.toUInt64 + 1
    let past := cycles - div - 1
    ((r.prl.toUInt64 - past % period).toUInt32, 1 + past / period)

/-- The flags set while the counter goes `seconds` up from its value. The alarm fires when the
counter passes through its value, also after a wrap. -/
def eventsOf (r : Rtc) (seconds : UInt64) : UInt32 :=
  let next := r.cnt + seconds.toUInt32
  let overflow := if 0xFFFFFFFF < seconds || next < r.cnt then owf else 0
  -- The distance to the alarm wraps: from the alarm's own value it is a whole round.
  let alarm := if (r.alr - r.cnt - 1).toUInt64 < seconds then alrf else 0
  secf ||| overflow ||| alarm

/-- The running clock after `cycles` cycles. -/
def run (r : Rtc) (cycles : UInt64) : Rtc × TickResult :=
  let (div, seconds) := r.divide cycles
  let r := { r with div }
  if seconds = 0 then (r, .quiet)
  else
    let events := r.eventsOf seconds
    let r := { r with cnt := r.cnt + seconds.toUInt32, regs := r.regs.setBits crl events }
    (r, .line (anySet (r.regs.get crh) events))

def advance (r : Rtc) (nanos : Nat) : Rtc × TickResult :=
  let (cycles, clock) := r.clock.advance nanos
  let r := { r with clock }
  if cycles == 0 || r.configuring then (r, .quiet) else r.run cycles

end Rtc

end BoardSim
