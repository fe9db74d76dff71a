import BoardSim.Simulator.Tick

/-!
# Starting, stepping and stopping

A start spawns the firmware thread and the stepping loop. The firmware runs to its first blocking
point at once and, after every tick, on to the next one. The stepping loop sleeps until it is
woken, and then runs one tick. A stop ends both: nothing blocks any more, and a thread that does
not end by itself then is given up.

A blocking call has two sections: it reads the counter that it will wait on (`awaitDispatch`,
`awaitTicks`), and then looks whether its wait is over (`look?`), again after every change. Ticks
and stops may come between the two. `Task.run` is the run in which nothing does.
-/

namespace BoardSim

variable {σ : Type}

namespace Simulator

def awaitDispatch (s : Simulator σ) : Await := .dispatch s.dispatched

/-- The sum wraps, so a very long delay is over at once. -/
def awaitTicks (s : Simulator σ) (ticks : UInt64) : Await := .tick (s.tick + ticks)

/-- The answer of a call that waits for this; `none` while it blocks. A stop ends every wait: a wait
for an interrupt then answers false, a delay still tells whether its tick has come. -/
def look? (s : Simulator σ) : Await → Option Bool
  | .dispatch seen => if s.stopping || seen < s.dispatched then some !s.stopping else none
  | .tick target => if s.stopping || target ≤ s.tick then some (target ≤ s.tick) else none

section
variable {s : Simulator σ}

theorem look?_dispatch (going : s.stopping = false) (seen : UInt64) :
    s.look? (.dispatch seen) = if seen < s.dispatched then some true else none := by
  simp [look?, going]

theorem look?_tick (going : s.stopping = false) (target : UInt64) :
    s.look? (.tick target) = if target ≤ s.tick then some true else none := by
  by_cases due : target ≤ s.tick <;> simp [look?, going, due]

theorem look?_dispatch_of_stopping (stopping : s.stopping = true) (seen : UInt64) :
    s.look? (.dispatch seen) = some false := by
  simp [look?, stopping]

theorem look?_tick_of_stopping (stopping : s.stopping = true) (target : UInt64) :
    s.look? (.tick target) = some (decide (target ≤ s.tick)) := by
  simp [look?, stopping]

theorem look?_awaitDispatch (going : s.stopping = false) : s.look? s.awaitDispatch = none := by
  rw [awaitDispatch, look?_dispatch going, if_neg (UInt64.lt_irrefl _)]

end

end Simulator

def Task.run (s : Simulator σ) : Task σ Bool → (Bool ⊕ Progress σ) × Simulator σ
  | .done again => (.inl again, s)
  | .call c next =>
    -- A handler that never returns keeps the bus to itself.
    if s.stuck && c.usesBus then (.inr .hung, s)
    else
      let (answer, s) := s.answer c
      (next answer).run s
  | .install line handler next =>
    if s.stuck then (.inr .hung, s)
    else
      match s.install line handler with
      | .ok s => (next (.ok ())).run s
      | .error e => (next (.error e)).run s
  | .wait next =>
    match s.look? s.awaitDispatch with
    | some answer => (next answer).run s
    | none => (.inr (.blocked s.awaitDispatch next), s)
  | .delay ticks next =>
    match s.look? (s.awaitTicks ticks) with
    | some answer => (next answer).run s
    | none => (.inr (.blocked (s.awaitTicks ticks) next), s)
  | .hang => (.inr .hung, s)

namespace Simulator

def runPass (s : Simulator σ) (pass : Task σ Bool) : Progress σ × Simulator σ :=
  match pass.run s with
  | (.inl true, s) => (.looping, s)
  | (.inl false, s) => (.returned, s)
  | (.inr progress, s) => (progress, s)

/-- Run a task and, if it ends with true, a pass of the firmware loop. -/
def runTask (s : Simulator σ) (task pass : Task σ Bool) : Progress σ × Simulator σ :=
  match task.run s with
  | (.inl true, s) => s.runPass pass
  | (.inl false, s) => (.returned, s)
  | (.inr progress, s) => (progress, s)

/-- Let a thread run on if what it waits for has come. -/
def resumeThread (s : Simulator σ) (thread : Thread σ) : Progress σ × Simulator σ :=
  match thread.progress with
  | .blocked await next =>
    match s.look? await with
    | some answer => s.runTask (next answer) thread.pass
    | none => (thread.progress, s)
  | .looping => s.runPass thread.pass
  | .hung | .returned => (thread.progress, s)

def resume (s : Simulator σ) : Simulator σ :=
  match s.thread with
  | none => s
  | some thread =>
    let (progress, s) := s.resumeThread thread
    { s with thread := some { thread with progress } }

/-- One tick, after which the firmware runs on. A stuck simulator makes no tick. -/
def stepOnce (s : Simulator σ) : TickReport × Simulator σ :=
  if s.stuck then (⟨s.tick, [], []⟩, s)
  else
    let (report, s) := s.runTick
    (report, s.resume)

/-- Whether the stepping loop is about to receive a wake-up. -/
def awaited (s : Simulator σ) : Bool :=
  s.running && s.stepping && !s.stuck && s.signal == some .wake

/-- The stepping loop receives a queued wake-up and runs one tick. -/
def serve (s : Simulator σ) : Simulator σ :=
  if s.awaited then ({ s with signal := none }).stepOnce.2 else s

def step (s : Simulator σ) : TickReport × Simulator σ :=
  let (report, s) := s.stepOnce
  (report, s.serve)

/-- Run `ticks` ticks and add up how many lines they dispatch. The sum wraps. -/
def sumTicks (s : Simulator σ) (ticks : Nat) : UInt64 × Simulator σ :=
  Nat.repeat
    (fun (count, s) =>
      let (report, s) := s.step
      (count + UInt64.ofNat report.dispatched.length, s))
    ticks (0, s)

def runTicks (s : Simulator σ) (ticks : Nat) : Nat × Simulator σ :=
  let (count, s) := s.sumTicks ticks
  (count.toNat, s)

/-- Latch a line from outside and tell whether it is enabled. Then a running loop wakes. -/
def request (s : Simulator σ) (line : UInt32) : Bool × Simulator σ :=
  let (enabled, s) := s.raise line true
  (enabled, s.serve)

def start (s : Simulator σ) (firmware : Firmware σ) : Except SimError (Simulator σ) :=
  if s.running then .error .alreadyRunning
  else
    -- The observers hear of the start before the firmware runs.
    let s := ({ s with running := true, stopping := false }).notify .started
    let (progress, s) := s.runTask firmware.setup firmware.pass
    let thread := { pass := firmware.pass, progress }
    .ok ({ s with thread := some thread, stepping := true }).serve

def returned (s : Simulator σ) : Bool :=
  match s.thread with
  | some { progress := .returned, .. } => true
  | _ => false

/-- Whether a stop has to join the firmware thread. -/
def attached (s : Simulator σ) : Bool := s.thread.any (·.attached)

/-- Give the firmware thread up or forget that it has ended. -/
def detach (s : Simulator σ) : Simulator σ :=
  { s with thread := s.thread.map ({ · with attached := false }) }

/-- Stop the stepping loop and the firmware. A loop stuck in a handler keeps the simulator for
itself: the observers are not told. -/
def stop (s : Simulator σ) : Except SimError Unit × Simulator σ :=
  let timeout := .error (.shutdownTimeout s.config.joinTimeout)
  let wasRunning := s.running
  let stuck := s.stepping && s.stuck
  let joined := s.attached
  let s := ({ s with running := false, stopping := true, stepping := false }).post .stop
  if stuck then (timeout, s.resume.detach)
  else
    -- The loop has received the signal and ended before the firmware is joined.
    let s := { s with signal := none }
    let s := (if wasRunning then s.notify .stopped else s).resume
    (if joined && !s.returned then timeout else .ok (), s.detach)

/-- Wait for an interrupt on the host's thread, undisturbed; `none` if that would block. -/
def waitNow? (s : Simulator σ) : Option Bool := s.look? s.awaitDispatch

/-- Wait for `ticks` ticks on the host's thread, undisturbed; `none` if that would block. -/
def delayNow? (s : Simulator σ) (ticks : UInt64) : Option Bool := s.look? (s.awaitTicks ticks)

def reached (s : Simulator σ) (target : UInt64) : Bool := target ≤ s.tick

end Simulator

end BoardSim
