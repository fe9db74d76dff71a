import BoardSim.Bus.Basic
import BoardSim.Observer.Basic
import BoardSim.Firmware.Task

/-!
# Simulator state

The bus with its devices, the table of interrupt handlers, the tick counter, and what the firmware
thread and the stepping loop are doing. Both threads run only at fixed points of an operation, so
the state between two operations is a plain value.

`Simulator.answer` is the effect of one call, whoever makes it.
-/

namespace BoardSim

/-- Durations are in nanoseconds. -/
structure SimConfig where
  tick : Nat := 1000000
  /-- How long the stepping loop sleeps between ticks when nothing wakes it. -/
  pacing : Nat := 1000000
  /-- How long a stop waits for a thread. -/
  joinTimeout : Nat := 500000000
  irqLines : UInt32 := 256
deriving DecidableEq

inductive Signal where
  | wake
  | stop
deriving DecidableEq

/-- What a blocking call waits for. -/
inductive Await where
  /-- A dispatch after the first `seen`. -/
  | dispatch (seen : UInt64)
  | tick (target : UInt64)
deriving DecidableEq

inductive Progress (σ : Type) where
  /-- In a blocking call that has read what it waits for. -/
  | blocked (await : Await) (next : Bool → Task σ Bool)
  /-- Between two passes. It went through the last one without blocking. -/
  | looping
  | hung
  | returned

structure Thread (σ : Type) where
  /-- What it goes round in. -/
  pass : Task σ Bool
  progress : Progress σ
  /-- No stop has joined it or given it up. -/
  attached : Bool := true

structure TickReport where
  tick : UInt64
  /-- The lines the devices requested, in device order. -/
  requested : List UInt32
  /-- The lines whose pending bit was consumed, in ascending order. -/
  dispatched : List UInt32
deriving DecidableEq

structure Simulator (σ : Type) where
  config : SimConfig
  bus : Bus
  handlers : Array (Option (Handler σ))
  observers : Array Observer := #[]
  tick : UInt64 := 0
  /-- Lines dispatched in completed ticks. -/
  dispatched : UInt64 := 0
  running : Bool := false
  /-- Set by a stop until the next start: nothing blocks. -/
  stopping : Bool := false
  /-- The one signal the stepping loop has not received. -/
  signal : Option Signal := none
  /-- The stepping loop has been started and not joined. -/
  stepping : Bool := false
  /-- A handler never returned: the tick it ran in will not end. -/
  stuck : Bool := false
  thread : Option (Thread σ) := none
  memory : σ

namespace Simulator

variable {σ : Type}

def new (config : SimConfig) (memory : σ) : Simulator σ :=
  let controller := InterruptController.withLines config.irqLines
  { config
    bus := { controller }
    handlers := .replicate controller.lineCount.toNat none
    memory }

def lineCount (s : Simulator σ) : UInt32 := s.bus.controller.lineCount

def addDevice (s : Simulator σ) (entry : Entry) : Except SimError (Nat × Simulator σ) := do
  let (index, bus) ← s.bus.register entry
  pure (index, { s with bus })

def notify (s : Simulator σ) (n : Notification) : Simulator σ :=
  { s with observers := s.observers.map (·.notify n) }

def addObserver (s : Simulator σ) (o : Observer) : Nat × Simulator σ :=
  (s.observers.size, { s with observers := s.observers.push o })

def install (s : Simulator σ) (line : UInt32) (handler : Handler σ) :
    Except SimError (Simulator σ) :=
  if line.toNat < s.handlers.size then
    .ok { s with handlers := s.handlers.setIfInBounds line.toNat (some handler) }
  else .error (.invalidIrqLine line (UInt32.ofNat s.handlers.size))

def setEnabled (s : Simulator σ) (line : UInt32) (on : Bool) : Simulator σ :=
  { s with bus := { s.bus with controller := s.bus.controller.setEnabled line on } }

def latch (s : Simulator σ) (line : UInt32) : Simulator σ :=
  { s with bus := { s.bus with controller := s.bus.controller.latch line } }

/-- Put a signal into the slot unless it holds one. -/
def post (s : Simulator σ) (signal : Signal) : Simulator σ :=
  { s with signal := s.signal.or (some signal) }

/-- Latch a line, see whether it is enabled and, if it is and `wake` is set, wake the loop. -/
def raise (s : Simulator σ) (line : UInt32) (wake : Bool) : Bool × Simulator σ :=
  let s := s.latch line
  let enabled := s.bus.controller.isEnabled line
  (enabled, if enabled && wake then s.post .wake else s)

def access (s : Simulator σ) (address : UInt64) (size : AccessSize) (direction : Direction)
    (payload : UInt64) : UInt64 × Simulator σ :=
  let (value, bus) := s.bus.access address size direction payload
  (value, { s with bus })

def answer (s : Simulator σ) : (c : Call σ) → c.Answer × Simulator σ
  | .access address size direction payload => s.access address size direction payload
  | .request line wake => s.raise line wake
  | .setEnabled line on => ((), s.setEnabled line on)
  | .ticks => (s.tick, s)
  | .running => (s.running, s)
  | .memory => (s.memory, s)
  | .update f => ((), { s with memory := f s.memory })

end Simulator

/-- Between ticks the host makes calls of its own. -/
instance {σ : Type} : MonadCall σ (StateM (Simulator σ)) where
  call c := fun s => s.answer c

/-- Run a handler program to its end; `none` if it never returns. -/
def Isr.run {σ α : Type} (s : Simulator σ) : Isr σ α → Option α × Simulator σ
  | .done a => (some a, s)
  | .call c next =>
    let (answer, s) := s.answer c
    (next answer).run s
  | .hang => (none, s)

/-- The second of two programs runs where the first has ended. -/
theorem Isr.run_bind {σ α β : Type} (s : Simulator σ) (p : Isr σ α) (f : α → Isr σ β) :
    (p >>= f).run s =
      match p.run s with
      | (some a, s) => (f a).run s
      | (none, s) => (none, s) := by
  induction p generalizing s with
  | done a => rfl
  | call c next ih => exact ih (s.answer c).1 (s.answer c).2
  | hang => rfl

end BoardSim
