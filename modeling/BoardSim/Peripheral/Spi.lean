import BoardSim.Peripheral

/-!
# SPI master

Writing the data register puts a byte in flight; the next step completes the exchange. The slave
is a `Responder`; without one the byte comes back as it was sent.
-/

namespace BoardSim

/-- A slave on the bus: a machine with numbered states that answers one byte with one byte. -/
structure Responder where
  state : Nat
  answer : Nat → UInt8 → UInt8 × Nat

namespace Spi

abbrev cr1 : Nat := 0
abbrev cr2 : Nat := 1
abbrev sr : Nat := 2
abbrev dr : Nat := 3
abbrev crcpr : Nat := 4

/-- `CR1`: the master is enabled. -/
abbrev spe : UInt32 := 0x40
/-- `CR2`: a received byte requests the interrupt. -/
abbrev rxneie : UInt32 := 0x40
/-- `SR`: a byte has been received. -/
abbrev rxne : UInt32 := 0x1
/-- `SR`: a byte can be written. -/
abbrev txe : UInt32 := 0x2
/-- `SR`: checksum error. -/
abbrev crcerr : UInt32 := 0x10
/-- `SR`: a byte is in flight. -/
abbrev bsy : UInt32 := 0x80

def layout : Layout := [
  { name := "CR1", offset := 0x00, writable := 0xFFFF },
  { name := "CR2", offset := 0x04, writable := 0xF7 },
  { name := "SR", offset := 0x08, reset := txe, writable := crcerr, onWrite := .clearZeros },
  { name := "DR", offset := 0x0C, writable := 0xFFFF },
  { name := "CRCPR", offset := 0x10, reset := 0x7, writable := 0xFFFF }]

/-- Completed exchanges kept in the log. -/
def logDepth : Nat := 256

end Spi

structure Spi where
  regs : RegisterFile Spi.layout := .reset _
  responder : Option Responder := none
  inFlight : Option UInt8 := none
  /-- The latest completed exchanges as (sent, received), oldest first. -/
  exchanges : List (UInt8 × UInt8) := []

namespace Spi

def setResponder (s : Spi) (responder : Option Responder) : Spi := { s with responder }

/-- The log, which is empty afterwards. -/
def takeExchanges (s : Spi) : List (UInt8 × UInt8) × Spi :=
  (s.exchanges, { s with exchanges := [] })

/-- Reading `DR` clears `RXNE`. -/
def fetch (s : Spi) (i : Nat) : UInt32 × Spi :=
  (s.regs.get i, if i = dr then { s with regs := s.regs.clearBits sr rxne } else s)

/-- A write to `DR` puts its low byte in flight if the master is enabled, and is lost otherwise. -/
def commit (s : Spi) (i : Nat) (word : UInt32) : Spi :=
  if i ≠ dr then { s with regs := s.regs.store i word }
  else if !anySet (s.regs.get cr1) spe then s
  else
    { s with
      inFlight := some (word &&& 0xFF).toUInt8
      regs := (s.regs.setBits sr bsy).clearBits sr txe }

instance : Peripheral Spi where
  layout _ := layout
  held s i := s.regs.get i
  put s i word := { s with regs := s.regs.set i word }
  fetch := fetch
  commit := commit

/-- The slave's answer to a byte. -/
def exchange (s : Spi) (sent : UInt8) : UInt8 × Option Responder :=
  match s.responder with
  | none => (sent, none)
  | some r =>
    let (received, state) := r.answer r.state sent
    (received, some { r with state })

/-- Append to the log, dropping the oldest exchange of a full one. -/
def logExchange (log : List (UInt8 × UInt8)) (entry : UInt8 × UInt8) : List (UInt8 × UInt8) :=
  (if log.length = logDepth then log.drop 1 else log) ++ [entry]

def advance (s : Spi) (_nanos : Nat) : Spi × TickResult :=
  match s.inFlight with
  | none => (s, .quiet)
  | some sent =>
    let (received, responder) := s.exchange sent
    let regs :=
      ((s.regs.set dr received.toUInt32).setBits sr (rxne ||| txe)).clearBits sr bsy
    ({ s with regs, responder, inFlight := none,
              exchanges := logExchange s.exchanges (sent, received) },
      .line (anySet (regs.get cr2) rxneie))

end Spi

end BoardSim
