import BoardSim.Peripheral
import BoardSim.TickClock

/-!
# Analogue-to-digital converter

One conversion at a time, of the channel that `SQR3` selects. The host sets what each channel
reads; a conversion takes `conversionCycles` clock cycles and completes in the first step that
exceeds them.
-/

namespace BoardSim

namespace Adc

abbrev sr : Nat := 0
abbrev cr1 : Nat := 1
abbrev cr2 : Nat := 2
abbrev sqr3 : Nat := 3
abbrev dr : Nat := 4

/-- `SR`: a conversion has ended. -/
abbrev eoc : UInt32 := 0x2
/-- `SR`: a conversion has started. -/
abbrev strt : UInt32 := 0x10
/-- `CR1`: the end of a conversion requests the interrupt. -/
abbrev eocie : UInt32 := 0x20
/-- `CR2`: the converter is powered. -/
abbrev adon : UInt32 := 0x1
/-- `CR2`: a conversion is followed by the next one. -/
abbrev cont : UInt32 := 0x2
/-- `CR2`: start a conversion. -/
abbrev swstart : UInt32 := 0x40000000

def layout : Layout := [
  { name := "SR", offset := 0x00, writable := 0x1F, onWrite := .clearZeros },
  { name := "CR1", offset := 0x04 },
  { name := "CR2", offset := 0x08 },
  { name := "SQR3", offset := 0x34, writable := 0x3FFFFFFF },
  { name := "DR", offset := 0x4C, writable := 0 }]

abbrev channelCount : Nat := 18

def conversionCycles : UInt64 := 14

def defaultHz : UInt64 := 1000000

end Adc

structure Adc where
  regs : RegisterFile Adc.layout := .reset _
  clock : TickClock := { hz := Adc.defaultHz }
  channels : Vector UInt16 Adc.channelCount := .replicate _ 0
  converting : Bool := false
  /-- Cycles the running conversion still needs; it ends when more than these have passed. -/
  remaining : UInt64 := 0

namespace Adc

def withClock (hz : UInt64) : Adc := { clock := { hz } }

/-- Set the 12-bit value the next conversion of `channel` returns. -/
def setChannel (a : Adc) (channel : Nat) (value : UInt16) : Adc :=
  { a with channels := a.channels.setIfInBounds channel (value &&& 0xFFF) }

def channel? (a : Adc) (channel : Nat) : Option UInt16 := a.channels[channel]?

/-- The channel the next result is taken from. -/
def selected (a : Adc) : Nat := (a.regs.get sqr3 &&& 0x1F).toNat

/-- Begin a conversion, or begin the running one again. -/
def start (a : Adc) : Adc :=
  { a with
    converting := true
    remaining := conversionCycles
    regs := (a.regs.clearBits sr eoc).setBits sr strt }

/-- Reading `DR` clears `EOC`. -/
def fetch (a : Adc) (i : Nat) : UInt32 × Adc :=
  (a.regs.get i, if i = dr then { a with regs := a.regs.clearBits sr eoc } else a)

/-- `SWSTART` starts a conversion of a powered converter and is never read back as 1. -/
def commit (a : Adc) (i : Nat) (word : UInt32) : Adc :=
  let before := a.regs.get i
  let a := { a with regs := a.regs.store i word }
  if i = cr2 then
    -- Only a bit that goes from 0 to 1 starts a conversion.
    let now := a.regs.get cr2
    let a := if anySet now adon && anySet now swstart && !anySet before swstart then a.start else a
    { a with regs := a.regs.clearBits cr2 swstart }
  else a

instance : Peripheral Adc where
  layout _ := layout
  held a i := a.regs.get i
  put a i word := { a with regs := a.regs.set i word }
  fetch := fetch
  commit := commit

/-- The running conversion ends: its sample goes to `DR`. -/
def complete (a : Adc) : Adc × TickResult :=
  let sample := (a.channel? a.selected).getD 0
  let a := { a with converting := false, regs := (a.regs.set dr sample.toUInt32).setBits sr eoc }
  let irq := anySet (a.regs.get cr1) eocie
  let again := anySet (a.regs.get cr2) cont && anySet (a.regs.get cr2) adon
  (if again then a.start else a, .line irq)

def advance (a : Adc) (nanos : Nat) : Adc × TickResult :=
  let (cycles, clock) := a.clock.advance nanos
  let a := { a with clock }
  if !a.converting then (a, .quiet)
  else if cycles ≤ a.remaining then ({ a with remaining := a.remaining - cycles }, .quiet)
  else a.complete

end Adc

end BoardSim
