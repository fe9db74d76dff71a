import BoardSim.Peripheral
import BoardSim.TickClock
import BoardSim.Can.Frame

/-!
# CAN controller

A controller with 32 message buffers and an explicit mode. `rx` and `tx` are passed through: each
step handles at most one frame and ends in `idle` again, and `transitions` records the modes the
step entered. A frame waiting on the bus goes before a buffer waiting to be sent.
-/

namespace BoardSim.Can

inductive Mode where
  | off
  | init
  | sleep
  | idle
  | rx
  | tx
deriving DecidableEq, Inhabited

inductive Flow where
  | rx
  | tx
  | dropped
deriving DecidableEq, Inhabited

structure TraceEvent where
  bus : UInt8
  flow : Flow
  frame : Frame
  /-- The message buffer involved, if any. -/
  buffer : Option UInt8
deriving DecidableEq

structure Mailbox where
  code : UInt32
  cs : UInt32
  id : UInt32
  dlc : UInt8
  data : Vector UInt8 8
deriving DecidableEq

def bufferCount : Nat := 32

/-- The offset of the CS word of message buffer `n`; the ID word and the data words follow. -/
def bufferOffset (n : UInt64) : UInt64 := 0x80 + 0x10 * n

/-- The offset of the individual mask of message buffer `n`. -/
def individualMaskOffset (n : UInt64) : UInt64 := 0x880 + 4 * n

/-! Offsets of the registers that firmware addresses by number. -/

namespace Offset

def mcr : UInt64 := 0x00
def globalMask : UInt64 := 0x10
def imask1 : UInt64 := 0x28
def iflag1 : UInt64 := 0x30

end Offset

/-! Module configuration bits. -/

namespace Mcr

def mdis : UInt32 := 0x80000000
def frz : UInt32 := 0x40000000
def halt : UInt32 := 0x10000000
def notrdy : UInt32 := 0x08000000
def softrst : UInt32 := 0x02000000
def frzack : UInt32 := 0x01000000
def lpmack : UInt32 := 0x00100000
def irmq : UInt32 := 0x00010000
def maxmb : UInt32 := 0x7F

def status : UInt32 := notrdy ||| frzack ||| lpmack

def atReset : UInt32 := mdis ||| frz ||| halt ||| notrdy ||| lpmack ||| 0x0F

def statusOf : Mode → UInt32
  | .off | .sleep => notrdy ||| lpmack
  | .init => notrdy ||| frzack
  | .idle | .rx | .tx => 0

end Mcr

namespace Controller

abbrev mcr : Nat := 0
abbrev ctrl1 : Nat := 1
abbrev timer : Nat := 2
abbrev globalMask : Nat := 3
abbrev mask14 : Nat := 4
abbrev mask15 : Nat := 5
abbrev ecr : Nat := 6
abbrev esr1 : Nat := 7
abbrev imask1 : Nat := 8
abbrev iflag1 : Nat := 9

abbrev csWord (n : Nat) : Nat := 10 + 4 * n
abbrev idWord (n : Nat) : Nat := 10 + 4 * n + 1
abbrev data0Word (n : Nat) : Nat := 10 + 4 * n + 2
abbrev data1Word (n : Nat) : Nat := 10 + 4 * n + 3
abbrev individualMask (n : Nat) : Nat := 10 + 4 * 32 + n

def controlLayout : Layout := [
  { name := "MCR", offset := Offset.mcr, reset := Mcr.atReset },
  { name := "CTRL1", offset := 0x04 },
  { name := "TIMER", offset := 0x08, writable := 0xFFFF },
  { name := "RXMGMASK", offset := Offset.globalMask, reset := 0xFFFFFFFF },
  { name := "RX14MASK", offset := 0x14, reset := 0xFFFFFFFF },
  { name := "RX15MASK", offset := 0x18, reset := 0xFFFFFFFF },
  { name := "ECR", offset := 0x1C },
  { name := "ESR1", offset := 0x20 },
  { name := "IMASK1", offset := Offset.imask1 },
  { name := "IFLAG1", offset := Offset.iflag1, onWrite := .clearOnes }]

def bufferLayout (n : Nat) : Layout :=
  let label := "MB" ++ toString n
  let base := bufferOffset (UInt64.ofNat n)
  [{ name := label ++ "_CS", offset := base },
    { name := label ++ "_ID", offset := base + 4 },
    { name := label ++ "_DATA0", offset := base + 8 },
    { name := label ++ "_DATA1", offset := base + 12 }]

def maskLayout (n : Nat) : Register where
  name := "RXIMR" ++ toString n
  offset := individualMaskOffset (UInt64.ofNat n)
  reset := 0xFFFFFFFF

def layout : Layout :=
  controlLayout ++ (List.range bufferCount).flatMap bufferLayout ++
    (List.range bufferCount).map maskLayout

def hz : UInt64 := 1000000

end Controller

structure Controller where
  bus : UInt8
  regs : RegisterFile Controller.layout := .reset _
  mode : Mode := .off
  /-- The modes entered in the latest step, in order. -/
  transitions : List Mode := []
  clock : TickClock := { hz := Controller.hz }
  /-- Frames on the bus that the controller has not handled. -/
  inbox : List Frame := []
  /-- Frames it has sent and the host has not collected. -/
  outbox : List Frame := []
  tracing : Bool := false
  trace : Array TraceEvent := #[]

namespace Controller

-- ---------------------------------------------------------------------------
-- The host's end of the bus
-- ---------------------------------------------------------------------------

def inject (c : Controller) (frame : Frame) : Controller := { c with inbox := c.inbox ++ [frame] }

def collect (c : Controller) : Option Frame × Controller :=
  (c.outbox.head?, { c with outbox := c.outbox.tail })

def collectAll (c : Controller) : List Frame × Controller := (c.outbox, { c with outbox := [] })

def startTrace (c : Controller) : Controller := { c with tracing := true }

/-- Turn tracing off. What has been traced can still be taken. -/
def stopTrace (c : Controller) : Controller := { c with tracing := false }

def takeTrace (c : Controller) : Array TraceEvent × Controller := (c.trace, { c with trace := #[] })

def record (c : Controller) (flow : Flow) (frame : Frame) (buffer : Option Nat) : Controller :=
  if c.tracing then { c with trace := c.trace.push ⟨c.bus, flow, frame, buffer.map UInt8.ofNat⟩ }
  else c

-- ---------------------------------------------------------------------------
-- Message buffers
-- ---------------------------------------------------------------------------

def code (c : Controller) (n : Nat) : UInt32 := Word.codeOf (c.regs.get (csWord n))

def data (c : Controller) (n : Nat) : Vector UInt8 8 :=
  Word.bytes (c.regs.get (data0Word n)) (c.regs.get (data1Word n))

def mailbox? (c : Controller) (n : Nat) : Option Mailbox :=
  if n < bufferCount then
    let cs := c.regs.get (csWord n)
    some {
      code := Word.codeOf cs
      cs
      id := c.regs.get (idWord n)
      dlc := Word.dlcOf cs
      data := c.data n }
  else none

/-- The buffers the controller scans. -/
def scanned (c : Controller) : List Nat :=
  List.range (min (c.regs.get mcr &&& Mcr.maxmb).toNat (bufferCount - 1) + 1)

/-- The time stamp of a frame handled now. -/
def stamp (c : Controller) : UInt32 := c.regs.get timer &&& 0xFFFF

def complete (c : Controller) (n : Nat) : Bool × Controller :=
  let bit : UInt32 := 1 <<< UInt32.ofNat n
  (anySet (c.regs.get imask1) bit, { c with regs := c.regs.setBits iflag1 bit })

-- ---------------------------------------------------------------------------
-- Mode
-- ---------------------------------------------------------------------------

/-- Make the status bits of `MCR` show the mode. -/
def showMode (c : Controller) : Controller :=
  { c with regs := c.regs.set mcr ((c.regs.get mcr &&& ~~~Mcr.status) ||| Mcr.statusOf c.mode) }

def enter (c : Controller) (mode : Mode) : Controller :=
  ({ c with mode, transitions := c.transitions ++ [mode] }).showMode

def softReset (c : Controller) : Controller :=
  { c with regs := [timer, ecr, esr1, imask1, iflag1].foldl (·.restart ·) c.regs }

/-- The mode that a write of `word` to `MCR` asks for. -/
def requestedMode (mode : Mode) (word : UInt32) : Mode :=
  if anySet word Mcr.mdis then
    -- A controller that has been on sleeps instead of going off.
    match mode with
    | .off => .off
    | _ => .sleep
  else
    match mode with
    | .off => .init
    | .sleep => if anySet word Mcr.halt then .init else .sleep
    | .idle => if anySet word Mcr.frz && anySet word Mcr.halt then .init else .idle
    | mode => mode

def configure (c : Controller) (word : UInt32) : Controller :=
  let c := if anySet word Mcr.softrst then c.softReset else c
  -- The status bits are the controller's own, and a soft reset is over at once.
  let kept := c.regs.get mcr &&& Mcr.status
  let regs := c.regs.set mcr ((word &&& ~~~Mcr.status &&& ~~~Mcr.softrst) ||| kept)
  ({ c with regs, mode := requestedMode c.mode word }).showMode

def commit (c : Controller) (i : Nat) (word : UInt32) : Controller :=
  if i = mcr then c.configure word else { c with regs := c.regs.store i word }

instance : Peripheral Controller where
  layout _ := layout
  held c i := c.regs.get i
  put c i word := { c with regs := c.regs.set i word }
  commit := commit

-- ---------------------------------------------------------------------------
-- Reception
-- ---------------------------------------------------------------------------

/-- The acceptance mask of buffer `n`: a bit of 1 makes the identifier bit count. -/
def maskOf (c : Controller) (n : Nat) : UInt32 :=
  if anySet (c.regs.get mcr) Mcr.irmq then c.regs.get (individualMask n)
  else if n = 14 then c.regs.get mask14
  else if n = 15 then c.regs.get mask15
  else c.regs.get globalMask

/-- Whether the filter of buffer `n` lets the frame in. The identifier format always counts. -/
def accepts (c : Controller) (n : Nat) (frame : Frame) : Bool :=
  anySet (c.regs.get (csWord n)) Word.ide == frame.extended &&
    (c.regs.get (idWord n) ^^^ Word.id frame) &&& (c.maskOf n &&& extendedIdMask) == 0

def candidates (c : Controller) (frame : Frame) : List Nat :=
  c.scanned.filter fun n => Code.receives (c.code n) && c.accepts n frame

/-- The buffer that takes the frame: the first empty candidate, else the first one, whose unread
frame is overrun. -/
def chooseBuffer (c : Controller) (frame : Frame) : Option (Nat × Bool) :=
  let candidates := c.candidates frame
  match candidates.find? (c.code · == Code.rxEmpty) with
  | some n => some (n, false)
  | none => candidates.head?.map (·, true)

def fillBuffer (c : Controller) (n : Nat) (overrun : Bool) (frame : Frame) : Controller :=
  let status := if overrun then Code.rxOverrun else Code.rxFull
  let format := if frame.extended then Word.ide ||| Word.srr else 0
  let (data0, data1) := Word.data frame.data
  { c with
    regs := (((c.regs.set (csWord n) (Word.cs status frame.dlc ||| c.stamp ||| format)).set
      (idWord n) (Word.id frame)).set (data0Word n) data0).set (data1Word n) data1 }

/-- Handle a frame from the bus; tells whether it requests the interrupt. -/
def receive (c : Controller) (frame : Frame) : Bool × Controller :=
  match c.chooseBuffer frame with
  | none => (false, c.record .dropped frame none)
  | some (n, overrun) =>
    -- A remote request finds its buffer, but no buffer stores one.
    if frame.remote then (false, c.record .dropped frame (some n))
    else ((c.fillBuffer n overrun frame).record .rx frame (some n)).complete n

-- ---------------------------------------------------------------------------
-- Transmission
-- ---------------------------------------------------------------------------

/-- The lowest buffer that waits to be sent. -/
def armedBuffer? (c : Controller) : Option Nat := c.scanned.find? fun n => Code.armed (c.code n)

def frameOf (c : Controller) (n : Nat) : Frame :=
  let cs := c.regs.get (csWord n)
  let id := c.regs.get (idWord n)
  let extended := anySet cs Word.ide
  { id := if extended then id &&& extendedIdMask else (id >>> 18) &&& standardIdMask
    extended
    remote := Word.codeOf cs == Code.txRemote || anySet cs Word.rtr
    dlc := min (Word.dlcOf cs) 8
    data := c.data n }

/-- The CS word of buffer `n` once it has been sent. A remote request waits for its answer in the
same buffer. -/
def sentWord (c : Controller) (n : Nat) : UInt32 :=
  let cs := c.regs.get (csWord n)
  let next := if Word.codeOf cs = Code.txRemote then Code.rxEmpty else Code.txInactive
  (next <<< (24 : UInt32)) ||| (cs &&& (Word.srr ||| Word.ide ||| Word.rtr ||| Word.dlcMask)) |||
    c.stamp

/-- Send buffer `n`; tells whether it requests the interrupt. -/
def transmit (c : Controller) (n : Nat) : Bool × Controller :=
  let frame := c.frameOf n
  let c := { c with
    regs := c.regs.set (csWord n) (c.sentWord n)
    outbox := c.outbox ++ [frame] }
  (c.record .tx frame (some n)).complete n

-- ---------------------------------------------------------------------------
-- Simulated time
-- ---------------------------------------------------------------------------

/-- The free-running time stamp counter moves on. -/
def advanceTimer (c : Controller) (nanos : Nat) : Controller :=
  let (elapsed, clock) := c.clock.advance nanos
  let now := ((c.regs.get timer).toUInt64 + elapsed) &&& 0xFFFF
  { c with clock, regs := c.regs.set timer now.toUInt32 }

/-- A controller that is off loses what is on the bus. -/
def discardAll (c : Controller) : Controller :=
  { c.inbox.foldl (fun c frame => c.record .dropped frame none) c with inbox := [] }

/-- Handle one frame: one from the bus if there is any, else one from a buffer. -/
def exchange (c : Controller) : Controller × TickResult :=
  match c.inbox with
  | frame :: inbox =>
    let (irq, c) := (({ c with inbox }).enter .rx).receive frame
    (c.enter .idle, .line irq)
  | [] =>
    match c.armedBuffer? with
    | none => (c, .quiet)
    | some n =>
      let (irq, c) := (c.enter .tx).transmit n
      (c.enter .idle, .line irq)

def advance (c : Controller) (nanos : Nat) : Controller × TickResult :=
  -- The time stamp counter runs in every mode.
  let c := ({ c with transitions := [] }).advanceTimer nanos
  match c.mode with
  | .off => (c.discardAll, .quiet)
  | .init | .sleep =>
    let held := anySet (c.regs.get mcr) (Mcr.mdis ||| Mcr.halt)
    (if held then c else c.enter .idle, .quiet)
  | .idle | .rx | .tx => c.exchange

end Controller

end BoardSim.Can
