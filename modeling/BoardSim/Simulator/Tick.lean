import BoardSim.Simulator.Basic

/-!
# Ticks

A tick has three phases. Every device moves through the simulated time of a tick, in order; then
the lines they asked for are latched; then every line that is ready at that point is dispatched,
lowest first, unless a handler that ran before it has made it unready. Lines that handlers latch
wait for the next tick.
-/

namespace BoardSim.Simulator

variable {σ : Type}

def runHandler (s : Simulator σ) (line : UInt32) (tick : UInt64) : Simulator σ :=
  match s.handlers[line.toNat]? with
  | some (some handler) =>
    let (returned, s) := (handler line tick).run s
    if returned.isNone then { s with stuck := true } else s
  | _ => s

def dispatchLine (s : Simulator σ) (line : UInt32) (tick : UInt64) : Bool × Simulator σ :=
  let (ready, controller) := s.bus.controller.acknowledge line
  let s := { s with bus := { s.bus with controller } }
  if ready then (true, (s.notify (.lineDispatched line)).runHandler line tick) else (false, s)

/-- Serve the given lines in order, those of them that are still ready at their turn. A handler
that never returns leaves the rest. -/
def dispatchLines (s : Simulator σ) (tick : UInt64) : List UInt32 → List UInt32 × Simulator σ
  | [] => ([], s)
  | line :: rest =>
    if s.stuck then ([], s)
    else
      let (served, s) := s.dispatchLine line tick
      let (dispatched, s) := s.dispatchLines tick rest
      (if served then line :: dispatched else dispatched, s)

def updateDevices (s : Simulator σ) : List UInt32 × Simulator σ :=
  let (results, bus) := s.bus.advanceDevices s.config.tick
  let requested := results.flatMap fun (_, irq, result) => Bus.requestedLines irq result
  let s := results.foldl (fun s (name, _, result) => s.notify (.deviceUpdated name result))
    { s with bus }
  (requested, { s with bus := s.bus.latchAll requested })

/-- A tick ends once all its lines have been served. -/
def endTick (s : Simulator σ) (tick : UInt64) (served : Nat) : Simulator σ :=
  if s.stuck then s
  else
    { s.notify (.tickEnded tick) with
      tick
      dispatched := s.dispatched + UInt64.ofNat served }

def runTick (s : Simulator σ) : TickReport × Simulator σ :=
  let tick := s.tick + 1
  let (requested, s) := (s.notify (.tickStarted tick)).updateDevices
  let (dispatched, s) := s.dispatchLines tick s.bus.controller.readyLines
  (⟨tick, requested, dispatched⟩, s.endTick tick dispatched.length)

/-- The simulated time, in nanoseconds: no more than 64 bits hold. -/
def simTime (s : Simulator σ) : UInt64 :=
  UInt64.ofNat (min (s.config.tick * s.tick.toNat % (UInt64.size * UInt64.size)) (UInt64.size - 1))

end BoardSim.Simulator
