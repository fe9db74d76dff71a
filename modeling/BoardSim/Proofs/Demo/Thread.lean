import BoardSim.Proofs.Demo.Tick

/-!
# The firmware thread of the demo

After a tick the thread either goes on waiting or, woken by the dispatch, may print a status line
and waits again. Either way the devices of the pipeline stay as they are, so that a whole step of
the simulator is one `Pipeline.tick`.
-/

namespace BoardSim.Demo

open MonadCall Programs

namespace Layout

/-- What firmware does once its wait has ended. -/
def resumed (l : Layout) (woken : Bool) : Task Stats Bool := do
  if !woken then pure false
  else
    let now ← call .ticks
    let st ← call .memory
    if st.nextStatus ≤ now then
      call (.update fun st => { st with nextStatus := st.nextStatus + l.statusEvery })
      l.print (statusLine now st)
    pure true

theorem pass_eq (l : Layout) : l.pass = .wait l.resumed := rfl

end Layout

section
variable {level : UInt16} {p : Pipeline} {s : Simulator Stats} {c : Chamber} {m : Stats}

theorem Rested.withConsole (h : Rested level p c m) {usart1 : Uart} (ready : Ready usart1)
    (nextStatus : UInt64) :
    Rested level p { c with usart1 } { m with nextStatus } where
  station := { h.station with ready }
  account := { h.account with }

theorem Rested.resumed (h : Rested level p c m) (alive : s.stuck = false) :
    ∃ c' m', Ends (chamberLayout.resumed true) (holding s c m) true (holding s c' m') ∧
      Rested level p c' m' := by
  have ticks := ends_call (m := Task Stats) .ticks (s := holding s c m) alive
  have memory := ends_call (m := Task Stats) .memory (s := holding s c m) alive
  unfold Layout.resumed
  rw [if_neg (by decide)]
  by_cases due : m.nextStatus ≤ s.tick
  · have next : ((holding s c m).answer .memory).1.nextStatus ≤ ((holding s c m).answer .ticks).1 :=
      due
    obtain ⟨usart1, ready, prints⟩ := ends_print alive h.station.ready
      { m with nextStatus := m.nextStatus + chamberLayout.statusEvery } (Layout.statusLine s.tick m)
    refine ⟨_, _, ends_bind ticks (ends_bind memory ?_), h.withConsole ready
      (m.nextStatus + chamberLayout.statusEvery)⟩
    rw [if_pos next]
    exact ends_bind (ends_updateMemory alive c m _) (ends_bind prints (ends_pure true _))
  · have later : ¬((holding s c m).answer .memory).1.nextStatus ≤
        ((holding s c m).answer .ticks).1 := due
    refine ⟨c, m, ends_bind ticks (ends_bind memory ?_), h⟩
    rw [if_neg later]
    exact ends_pure true _

end

/-- What the set-up and the first pass lead to is what the simulator starts with. -/
theorem start_of_runTask {s t : Simulator Stats} (firmware : Firmware Stats)
    {progress : Progress Stats} (idle : s.running = false)
    (run : (({ s with running := true, stopping := false }).notify .started).runTask
      firmware.setup firmware.pass = (progress, t)) :
    s.start firmware = .ok ({ t with
      thread := some { pass := firmware.pass, progress }, stepping := true }).serve := by
  unfold Simulator.start
  rw [idle, if_neg Bool.false_ne_true]
  simp only [run]

def Waiting (s : Simulator Stats) : Prop :=
  ∃ seen attached, s.thread =
    some ⟨chamberLayout.pass, .blocked (.dispatch seen) chamberLayout.resumed, attached⟩

theorem runPass_waits {s : Simulator Stats} (stopping : s.stopping = false) :
    s.runPass chamberLayout.pass = (.blocked s.awaitDispatch chamberLayout.resumed, s) := by
  have blocks : Task.run s chamberLayout.pass =
      (.inr (.blocked s.awaitDispatch chamberLayout.resumed), s) := by
    simp only [Layout.pass_eq, Task.run, Simulator.look?_awaitDispatch stopping]
  rw [Simulator.runPass, blocks]

theorem serve_of_quiet {s : Simulator Stats} (quiet : s.signal = none) : s.serve = s := by
  have unawaited : s.awaited = false := by
    rw [Simulator.awaited, quiet]
    simp
  rw [Simulator.serve, unawaited]
  rfl

section
variable {level : UInt16} {p : Pipeline} {s : Simulator Stats} {c : Chamber} {m : Stats}

theorem Rested.resume (h : Rested level p c m) (alive : s.stuck = false)
    (stopping : s.stopping = false) (waiting : Waiting s) :
    ∃ thread c' m', (holding s c m).resume = holding { s with thread } c' m' ∧
      Waiting { s with thread } ∧ Rested level p c' m' := by
  obtain ⟨seen, attached, thread⟩ := waiting
  have found : (holding s c m).thread = _ := thread
  unfold Simulator.resume
  rw [found]
  have look := Simulator.look?_dispatch (s := holding s c m) stopping seen
  simp only [Simulator.resumeThread, look]
  split
  · next answer due =>
    have woken : answer = true := by
      split at due <;> cases due
      rfl
    obtain ⟨c', m', ends, rested⟩ := h.resumed alive
    refine ⟨_, c', m', ?_, ⟨s.dispatched, attached, rfl⟩, rested⟩
    rw [woken, Simulator.runTask, Task.run_of_ends ends]
    simp only
    rw [runPass_waits (s := holding s c' m') stopping]
    rfl
  · exact ⟨_, c, m, rfl, ⟨seen, attached, rfl⟩, h⟩

end

-- ---------------------------------------------------------------------------
-- A step
-- ---------------------------------------------------------------------------

structure Tracks (level : UInt16) (p : Pipeline) (s : Simulator Stats) : Prop where
  devices : ∃ c m, s = holding s c m ∧ Rested level p c m
  lines : Lines s.bus.controller served fun _ => false
  live : Live s
  waiting : Waiting s
  tick : s.tick = UInt64.ofNat p.ticks

theorem Tracks.step {level : UInt16} {p : Pipeline} {s : Simulator Stats} (h : Tracks level p s)
    (fits : level.toUInt32 &&& 0xFFF = level.toUInt32) : Tracks level p.tick s.step.2 := by
  obtain ⟨⟨c, m, same, rested⟩, lines, live, waiting, tick⟩ := h
  obtain ⟨u, c₁, m₁, turns, amid, rested₁⟩ := turn_holding rested fits live lines
  rw [← same] at turns
  have live₁ : Live u := by
    rw [amid.same]
    exact { live with }
  have waiting₁ : Waiting u := by
    rw [amid.same]
    exact waiting
  -- the end of the tick counts it and tells the observers
  let v : Simulator Stats := { u.notify (.tickEnded (s.tick + 1)) with
    tick := s.tick + 1
    dispatched := u.dispatched + UInt64.ofNat s.runTick.1.dispatched.length }
  have ended : s.runTick.2 = holding v c₁ m₁ := by
    have alive : (holding u c₁ m₁).stuck = false := live₁.stuck
    rw [Simulator.snd_runTick, turns, Simulator.endTick, alive]
    rfl
  obtain ⟨thread, c₂, m₂, resumed, waiting₂, rested₂⟩ :=
    rested₁.resume (s := v) live₁.stuck live₁.stopping waiting₁
  have stepped : s.step.2 = holding { v with thread } c₂ m₂ := by
    have once : s.stepOnce.2 = holding { v with thread } c₂ m₂ := by
      unfold Simulator.stepOnce
      rw [live.stuck]
      simp only [Bool.false_eq_true, if_false]
      rw [ended, resumed]
    show s.stepOnce.2.serve = _
    rw [once]
    exact serve_of_quiet (s := holding { v with thread } c₂ m₂) live₁.signal
  rw [stepped]
  refine ⟨⟨c₂, m₂, rfl, rested₂⟩, amid.lines, { live₁ with }, waiting₂, ?_⟩
  show s.tick + 1 = UInt64.ofNat (p.ticks + 1)
  rw [tick, UInt64.ofNat_add]
  rfl

end BoardSim.Demo
