import BoardSim.Peripheral

/-!
# UART

Transmission is instant: a byte written to the data register goes to the sink at once, and `TXE`
stays set. Received bytes wait on the wire until a step takes them into the receive queue; a step
loads at most one of them, and only while `RXNE` is clear.
-/

namespace BoardSim

namespace Uart

abbrev sr : Nat := 0
abbrev dr : Nat := 1
abbrev brr : Nat := 2
abbrev cr1 : Nat := 3

/-- `SR`: a byte has been received. -/
abbrev rxne : UInt32 := 0x20
/-- `SR`: transmission is complete. -/
abbrev tc : UInt32 := 0x40
/-- `SR`: a byte can be written. -/
abbrev txe : UInt32 := 0x80
/-- `CR1`: a received byte requests the interrupt. -/
abbrev rxneie : UInt32 := 0x20
/-- `CR1`: a completed transmission requests the interrupt. -/
abbrev tcie : UInt32 := 0x40

def layout : Layout := [
  { name := "SR", offset := 0x00, reset := txe ||| tc, writable := rxne ||| tc,
    onWrite := .clearZeros },
  { name := "DR", offset := 0x04, writable := 0x1FF },
  { name := "BRR", offset := 0x08, writable := 0xFFFF },
  { name := "CR1", offset := 0x0C, writable := 0x3FFF }]

end Uart

structure Uart where
  regs : RegisterFile Uart.layout := .reset _
  /-- The bytes transmitted since a sink was attached or last emptied; `none` without a sink. -/
  sink : Option (Array UInt8) := none
  /-- Bytes the host has sent and no step has seen. -/
  wire : List UInt8 := []
  queue : List UInt8 := []
  transmitted : Bool := false

namespace Uart

def send (u : Uart) (bytes : List UInt8) : Uart := { u with wire := u.wire ++ bytes }

def pushReceived (u : Uart) (bytes : List UInt8) : Uart := { u with queue := u.queue ++ bytes }

def attachSink (u : Uart) : Uart := { u with sink := some #[] }

def detachSink (u : Uart) : Uart := { u with sink := none }

def takeSink (u : Uart) : Option (Array UInt8) × Uart :=
  (u.sink, { u with sink := u.sink.map fun _ => #[] })

/-- Reading `DR` clears `RXNE`. -/
def fetch (u : Uart) (i : Nat) : UInt32 × Uart :=
  (u.regs.get i, if i = dr then { u with regs := u.regs.clearBits sr rxne } else u)

/-- A write to `DR` transmits its low byte and leaves the received byte in place. -/
def commit (u : Uart) (i : Nat) (word : UInt32) : Uart :=
  if i = dr then
    { u with
      sink := u.sink.map (·.push (word &&& 0xFF).toUInt8)
      regs := u.regs.setBits sr (txe ||| tc)
      transmitted := true }
  else { u with regs := u.regs.store i word }

instance : Peripheral Uart where
  layout _ := layout
  held u i := u.regs.get i
  put u i word := { u with regs := u.regs.set i word }
  fetch := fetch
  commit := commit

/-- The bytes on the wire join the receive queue. -/
def drainWire (u : Uart) : Uart := { u with queue := u.queue ++ u.wire, wire := [] }

/-- Load the next queued byte if the last one has been read. Tells whether one was loaded. -/
def loadNext (u : Uart) : Bool × Uart :=
  match u.queue with
  | byte :: queue =>
    if anySet (u.regs.get sr) rxne then (false, u)
    else (true, { u with queue, regs := (u.regs.set dr byte.toUInt32).setBits sr rxne })
  | [] => (false, u)

def advance (u : Uart) (_nanos : Nat) : Uart × TickResult :=
  let (loaded, u) := u.drainWire.loadNext
  let control := u.regs.get cr1
  let irq := loaded && anySet control rxneie || u.transmitted && anySet control tcie
  ({ u with transmitted := false }, .line irq)

end Uart

end BoardSim
