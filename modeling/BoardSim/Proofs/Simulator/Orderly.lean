import BoardSim.Proofs.Firmware.Looping
import BoardSim.Proofs.Simulator.Telling

/-!
# A simulator in order

The state of a simulator that is started, stepped and stopped is spread over its flags, the signal,
the firmware thread and the observers. `Orderly` says how they fit between two operations, and each
operation keeps it as long as the firmware can be told to exit and the handlers return.
-/

namespace BoardSim

variable {σ : Type}

/-- The firmware blocks in every round of its loop and ends when it is told to. -/
structure Firmware.Loops (firmware : Firmware σ) : Prop where
  setup : firmware.setup.Loops fun _ => True
  pass : firmware.pass.Loops fun again => again = false

namespace Simulator

variable {s : Simulator σ}

-- ---------------------------------------------------------------------------
-- What the firmware does in an operation
-- ---------------------------------------------------------------------------

def taskDeeds (s : Simulator σ) (task pass : Task σ Bool) : List (Deed σ) :=
  task.deeds s ++
    match task.run s with
    | (.inl true, s) => pass.deeds s
    | _ => []

def threadDeeds (s : Simulator σ) (thread : Thread σ) : List (Deed σ) :=
  match thread.progress with
  | .blocked await next =>
    match s.look? await with
    | some answer => s.taskDeeds (next answer) thread.pass
    | none => []
  | .looping => thread.pass.deeds s
  | .hung | .returned => []

def resumeDeeds (s : Simulator σ) : List (Deed σ) :=
  match s.thread with
  | none => []
  | some thread => s.threadDeeds thread

def tickDeeds (s : Simulator σ) : List (Deed σ) := if s.stuck then [] else s.runTick.2.resumeDeeds

def serveDeeds (s : Simulator σ) : List (Deed σ) :=
  if s.awaited then ({ s with signal := none }).tickDeeds else []

def stepDeeds (s : Simulator σ) : List (Deed σ) := s.tickDeeds ++ s.stepOnce.2.serveDeeds

def launchDeeds (s : Simulator σ) (firmware : Firmware σ) : List (Deed σ) :=
  (({ s with running := true, stopping := false }).notify .started).taskDeeds
    firmware.setup firmware.pass

def startDeeds (s : Simulator σ) (firmware : Firmware σ) : List (Deed σ) :=
  if s.running then [] else s.launchDeeds firmware ++ (s.launched firmware).serveDeeds

def stopDeeds (s : Simulator σ) : List (Deed σ) :=
  if s.stepping && s.stuck then s.halted.resumeDeeds else s.quieted.resumeDeeds

-- ---------------------------------------------------------------------------
-- The devices change by the firmware's calls
-- ---------------------------------------------------------------------------

theorem bus_runPass (s : Simulator σ) (pass : Task σ Bool) :
    (s.runPass pass).2.bus = (pass.deeds s).foldl Bus.obey s.bus := by
  rw [← Task.bus_run]
  unfold runPass
  split <;> next ended => rw [ended]

theorem bus_runTask (s : Simulator σ) (task pass : Task σ Bool) :
    (s.runTask task pass).2.bus = (s.taskDeeds task pass).foldl Bus.obey s.bus := by
  rw [taskDeeds, List.foldl_append, ← Task.bus_run]
  unfold runTask
  cases h : task.run s with
  | mk result t =>
    cases result with
    | inl again =>
      cases again with
      | true => exact t.bus_runPass pass
      | false => rfl
    | inr progress => rfl

theorem bus_resume (s : Simulator σ) :
    s.resume.bus = s.resumeDeeds.foldl Bus.obey s.bus := by
  cases found : s.thread with
  | none => simp only [resume, resumeDeeds, found, List.foldl_nil]
  | some thread =>
    obtain ⟨pass, progress, attached⟩ := thread
    simp only [resume, resumeDeeds, found, resumeThread, threadDeeds]
    cases progress with
    | blocked await next =>
      simp only
      cases s.look? await with
      | some answer => exact s.bus_runTask _ _
      | none => rfl
    | looping => exact s.bus_runPass _
    | hung | returned => rfl

-- ---------------------------------------------------------------------------
-- The firmware thread
-- ---------------------------------------------------------------------------

def Blocks (s : Simulator σ) (tick : UInt64) : Prop :=
  ∃ thread, s.thread = some thread ∧ (thread.pass.Loops fun again => again = false) ∧
    thread.progress.Orderly tick

/-- There is no firmware thread, or it has ended and has been joined. -/
def Ended (s : Simulator σ) : Prop :=
  ∀ thread, s.thread = some thread → thread.progress = .returned ∧ thread.attached = false

theorem resume_of_ended (h : s.Ended) : s.resume = s ∧ s.resumeDeeds = [] := by
  cases found : s.thread with
  | none => simp only [resume, resumeDeeds, found, and_self]
  | some thread =>
    obtain ⟨pass, progress, attached⟩ := thread
    have returned : progress = .returned := (h _ found).1
    subst returned
    simp only [resume, resumeDeeds, found, resumeThread, threadDeeds, and_true]
    rw [← found]

section
variable (alive : s.stuck = false) (returning : s.HandlersReturn)
include alive returning

section
variable (going : s.stopping = false)
include going

theorem runPass_blocks {pass : Task σ Bool} (loops : pass.Loops fun again => again = false)
    (fits : Fit (pass.deeds s)) :
    (s.runPass pass).1.Orderly s.tick ∧ (s.runPass pass).2.HandlersReturn := by
  obtain ⟨outcome, returning⟩ := loops.run alive going fits returning
  unfold runPass
  cases h : pass.run s with
  | mk result t =>
    rw [h] at outcome returning
    cases outcome with
    | ended last =>
      subst last
      exact ⟨.returned, returning⟩
    | blocked orderly => exact ⟨orderly, returning⟩

theorem runTask_blocks {task pass : Task σ Bool} (loops : task.Loops fun _ => True)
    (again : pass.Loops fun again => again = false) (fits : Fit (s.taskDeeds task pass)) :
    (s.runTask task pass).1.Orderly s.tick ∧ (s.runTask task pass).2.HandlersReturn := by
  obtain ⟨first, second⟩ := fit_append.1 fits
  obtain ⟨outcome, returning⟩ := loops.run alive going first returning
  have same := s.onChip_task task
  unfold runTask
  cases h : task.run s with
  | mk result t =>
    rw [h] at outcome returning same second
    cases outcome with
    | @ended goes _ =>
      cases goes with
      | true =>
        rw [← same.tick]
        exact runPass_blocks (same.stuck.trans alive) returning (same.stopping.trans going) again
          second
      | false => exact ⟨.returned, returning⟩
    | blocked orderly => exact ⟨orderly, returning⟩

/-- The thread runs on to where it blocks next, or waits where it is. -/
theorem resume_blocks {tick : UInt64} (blocks : s.Blocks tick) (fits : Fit s.resumeDeeds) :
    s.resume.Blocks s.tick ∧ s.resume.HandlersReturn := by
  obtain ⟨thread, found, loops, orderly⟩ := blocks
  obtain ⟨pass, progress, attached⟩ := thread
  have resumed : (s.resumeThread ⟨pass, progress, attached⟩).1.Orderly s.tick ∧
      (s.resumeThread ⟨pass, progress, attached⟩).2.HandlersReturn := by
    simp only [resumeDeeds, found, threadDeeds] at fits
    cases orderly with
    | @waiting seen next quits goes =>
      simp only [resumeThread, look?_dispatch going] at fits ⊢
      by_cases due : seen < s.dispatched
      · simp only [if_pos due] at fits ⊢
        exact runTask_blocks alive returning going goes loops fits
      · simp only [if_neg due]
        exact ⟨.waiting quits goes, returning⟩
    | @sleeping target next ahead quits goes =>
      simp only [resumeThread, look?_tick going] at fits ⊢
      by_cases due : target ≤ s.tick
      · simp only [if_pos due] at fits ⊢
        exact runTask_blocks alive returning going goes loops fits
      · simp only [if_neg due]
        exact ⟨.sleeping (UInt64.not_le.1 due) quits goes, returning⟩
    | returned => exact ⟨.returned, returning⟩
  simp only [resume, found]
  exact ⟨⟨_, rfl, loops, resumed.1⟩, resumed.2.of_eq rfl⟩

end

section
variable (stopping : s.stopping = true)
include stopping

theorem runTask_returns {task : Task σ Bool} (quits : task.Quits) (pass : Task σ Bool)
    (fits : Fit (s.taskDeeds task pass)) :
    (s.runTask task pass).1 = .returned ∧ (s.runTask task pass).2.signal = s.signal ∧
      (s.runTask task pass).2.HandlersReturn := by
  obtain ⟨result, signal, returning⟩ := quits.run alive stopping (fit_append.1 fits).1 returning
  unfold runTask
  cases h : task.run s with
  | mk ended t =>
    rw [h] at result signal returning
    subst result
    exact ⟨rfl, signal, returning⟩

/-- Told to exit, the thread ends. -/
theorem resume_returns (blocks : s.Blocks s.tick) (fits : Fit s.resumeDeeds) :
    s.resume.returned = true ∧ s.resume.signal = s.signal ∧ s.resume.HandlersReturn := by
  obtain ⟨thread, found, loops, orderly⟩ := blocks
  obtain ⟨pass, progress, attached⟩ := thread
  have resumed : (s.resumeThread ⟨pass, progress, attached⟩).1 = .returned ∧
      (s.resumeThread ⟨pass, progress, attached⟩).2.signal = s.signal ∧
        (s.resumeThread ⟨pass, progress, attached⟩).2.HandlersReturn := by
    simp only [resumeDeeds, found, threadDeeds] at fits
    cases orderly with
    | @waiting seen next quits goes =>
      simp only [resumeThread, look?_dispatch_of_stopping stopping] at fits ⊢
      exact runTask_returns alive returning stopping quits pass fits
    | @sleeping target next ahead quits goes =>
      have early : decide (target ≤ s.tick) = false := decide_eq_false (UInt64.not_le.2 ahead)
      simp only [resumeThread, look?_tick_of_stopping stopping, early] at fits ⊢
      exact runTask_returns alive returning stopping quits pass fits
    | returned => exact ⟨rfl, rfl, returning⟩
  obtain ⟨ended, signal, returning⟩ := resumed
  simp only [resume, found]
  refine ⟨?_, signal, returning.of_eq rfl⟩
  simp [returned, ended]

end

end

-- ---------------------------------------------------------------------------
-- One operation
-- ---------------------------------------------------------------------------

theorem alive_runHandler (alive : s.stuck = false) (returning : s.HandlersReturn) (line : UInt32)
    (tick : UInt64) : (s.runHandler line tick).stuck = false := by
  cases found : s.handler? line with
  | none =>
    rw [runHandler_of_none found]
    exact alive
  | some handler =>
    have returned : ((handler line tick).run s).1.isNone = false := by
      simpa using returning line handler found s line tick
    rw [runHandler_of_some found, returned]
    exact (s.onChip_isr _).stuck.trans alive

theorem alive_dispatchLines (alive : s.stuck = false) (returning : s.HandlersReturn)
    (tick : UInt64) (lines : List UInt32) : (s.dispatchLines tick lines).2.stuck = false := by
  induction s, lines using dispatchLines_induction tick with
  | stopped s lines h =>
    rw [alive] at h
    cases h
  | through s h => exact alive
  | skip s line rest h unready ih =>
    rw [dispatchLines_skip unready]
    exact ih alive returning
  | serve s line rest h ready ih =>
    have same := sameTables_runHandler (s.consume line) line tick
    rw [dispatchLines_serve h ready]
    have consumed : (s.consume line).HandlersReturn := returning.of_eq rfl
    exact ih (alive_runHandler (s := s.consume line) alive consumed line tick)
      (returning.of_eq same.handlers)

/-- A tick whose handlers return comes to its end. -/
theorem alive_runTick (alive : s.stuck = false) (returning : s.HandlersReturn) :
    s.runTick.2.stuck = false ∧ s.runTick.2.HandlersReturn := by
  have same := s.sameTables_updated
  have handlers := (same.trans (sameTables_dispatchLines s.updated (s.tick + 1) s.ready)).handlers
  refine ⟨?_, returning.of_eq ?_⟩
  · rw [snd_runTick, stuck_endTick]
    refine alive_dispatchLines ?_ (returning.of_eq same.handlers) _ _
    obtain ⟨_, updated⟩ := s.updated_eq
    rw [updated]
    exact alive
  · rw [snd_runTick, handlers_endTick]
    exact handlers

/-- How the parts of the state fit together between two operations. -/
structure Orderly (s : Simulator σ) : Prop where
  alive : s.stuck = false
  stepping : s.stepping = s.running
  returning : s.HandlersReturn
  going : s.running = true → s.stopping = false ∧ s.Blocks s.tick
  ended : s.running = false → s.Ended

namespace Orderly

theorem stepOnce (h : s.Orderly) (fits : Fit s.tickDeeds) : s.stepOnce.2.Orderly := by
  have told := s.tickTold_runTick false
  obtain ⟨alive, returning⟩ := alive_runTick h.alive h.returning
  obtain ⟨_, run⟩ := s.runTick.2.exists_onChip_resume
  have stepping : s.runTick.2.resume.stepping = s.runTick.2.resume.running := by
    rw [run.stepping, run.running, told.stepping, told.running, h.stepping]
  simp only [tickDeeds, h.alive, Bool.false_eq_true, if_false] at fits
  simp only [Simulator.stepOnce, h.alive, Bool.false_eq_true, if_false]
  cases running : s.running with
  | true =>
    obtain ⟨going, thread, found, loops, orderly⟩ := h.going running
    have blocks : s.runTick.2.Blocks s.tick := ⟨thread, told.thread.trans found, loops, orderly⟩
    obtain ⟨blocks, returning⟩ :=
      resume_blocks alive returning (told.stopping.trans going) blocks fits
    have still : s.runTick.2.resume.running = true :=
      run.running.trans (told.running.trans running)
    refine ⟨run.stuck.trans alive, stepping, returning, fun _ => ⟨?_, ?_⟩, fun off => ?_⟩
    · exact run.stopping.trans (told.stopping.trans going)
    · rwa [run.tick]
    · rw [still] at off
      cases off
  | false =>
    have ended : s.runTick.2.Ended := fun thread found =>
      h.ended running thread (told.thread ▸ found)
    have off : s.runTick.2.running = false := told.running.trans running
    rw [(resume_of_ended ended).1] at stepping ⊢
    refine ⟨alive, stepping, returning, fun on => ?_, fun _ => ended⟩
    rw [off] at on
    cases on

theorem received (h : s.Orderly) : { s with signal := none }.Orderly :=
  ⟨h.alive, h.stepping, h.returning, h.going, h.ended⟩

theorem serve (h : s.Orderly) (fits : Fit s.serveDeeds) : s.serve.Orderly := by
  unfold Simulator.serve
  unfold serveDeeds at fits
  split
  · next awaited =>
    rw [if_pos awaited] at fits
    exact h.received.stepOnce fits
  · exact h

theorem step (h : s.Orderly) (fits : Fit s.stepDeeds) : s.step.2.Orderly := by
  obtain ⟨first, second⟩ := fit_append.1 fits
  exact (h.stepOnce first).serve second

theorem launched (h : s.Orderly) {firmware : Firmware σ} (loops : firmware.Loops)
    (fits : Fit (s.launchDeeds firmware)) : (s.launched firmware).Orderly := by
  let told := ({ s with running := true, stopping := false }).notify .started
  have alive : told.stuck = false := h.alive
  have returning : told.HandlersReturn := h.returning.of_eq rfl
  have run := told.onChip_runTask firmware.setup firmware.pass
  obtain ⟨orderly, returning⟩ := runTask_blocks alive returning rfl loops.setup loops.pass fits
  have on : (s.launched firmware).running = true := run.running
  refine ⟨run.stuck.trans alive, on.symm, returning.of_eq rfl, fun _ => ⟨run.stopping, ?_⟩,
    fun off => ?_⟩
  · refine ⟨_, rfl, loops.pass, ?_⟩
    rw [show (s.launched firmware).tick = told.tick from run.tick]
    exact orderly
  · rw [on] at off
    cases off

end Orderly

theorem quieted_eq (s : Simulator σ) :
    s.quieted = { s with
      running := false
      stopping := true
      stepping := false
      signal := none
      observers := s.quieted.observers } := by
  unfold quieted
  split <;> rfl

theorem attached_of_ended (h : s.Ended) : s.attached = false := by
  unfold attached
  cases found : s.thread with
  | none => rfl
  | some thread => exact (h thread found).2

structure Stopped (s : Simulator σ) : Prop where
  answer : s.stop.1 = .ok ()
  orderly : s.stop.2.Orderly
  running : s.stop.2.running = false
  stopping : s.stop.2.stopping = true
  signal : s.stop.2.signal = none

theorem ended_detach_of_returned (h : s.returned = true) : s.detach.Ended := by
  intro thread found
  obtain ⟨inner, there, rfl⟩ := Option.map_eq_some_iff.1 found
  refine ⟨?_, rfl⟩
  unfold returned at h
  rw [there] at h
  obtain ⟨pass, progress, attached⟩ := inner
  cases progress <;> first | rfl | cases h

theorem ended_detach_of_ended (h : s.Ended) : s.detach.Ended := by
  intro thread found
  obtain ⟨inner, there, rfl⟩ := Option.map_eq_some_iff.1 found
  exact ⟨(h inner there).1, rfl⟩

/-- Once the loop has ended the firmware ends, too, and nothing is left of it. -/
theorem Orderly.joined (h : s.Orderly) (fits : Fit s.quieted.resumeDeeds) :
    (s.attached && !s.quieted.resume.returned) = false ∧ s.quieted.resume.signal = none ∧
      s.quieted.resume.HandlersReturn ∧ s.quieted.resume.detach.Ended := by
  have alive : s.quieted.stuck = false := by rw [quieted_eq]; exact h.alive
  have stopping : s.quieted.stopping = true := by rw [quieted_eq]
  have returning : s.quieted.HandlersReturn := h.returning.of_eq (by rw [quieted_eq])
  have thread : s.quieted.thread = s.thread := by rw [quieted_eq]
  have tick : s.quieted.tick = s.tick := by rw [quieted_eq]
  cases running : s.running with
  | true =>
    obtain ⟨-, firmware, found, loops, orderly⟩ := h.going running
    have blocks : s.quieted.Blocks s.quieted.tick :=
      ⟨firmware, thread.trans found, loops, tick ▸ orderly⟩
    obtain ⟨returned, signal, returning⟩ := resume_returns alive returning stopping blocks fits
    refine ⟨?_, ?_, returning, ended_detach_of_returned returned⟩
    · rw [returned, Bool.not_true, Bool.and_false]
    · rw [signal, quieted_eq]
  | false =>
    have ended : s.quieted.Ended := fun firmware found =>
      h.ended running firmware (thread ▸ found)
    rw [(resume_of_ended ended).1]
    refine ⟨?_, ?_, returning, ended_detach_of_ended ended⟩
    · rw [attached_of_ended (h.ended running), Bool.false_and]
    · rw [quieted_eq]

theorem Orderly.stop (h : s.Orderly) (fits : Fit s.stopDeeds) : s.Stopped := by
  have unstuck : (s.stepping && s.stuck) = false := by rw [h.alive, Bool.and_false]
  simp only [stopDeeds, unstuck, Bool.false_eq_true, if_false] at fits
  obtain ⟨joined, signal, returning, ended⟩ := h.joined fits
  obtain ⟨_, run⟩ := s.quieted.exists_onChip_resume
  have off : s.quieted.resume.running = false := by rw [run.running, quieted_eq]
  have stepping : s.quieted.resume.stepping = false := by rw [run.stepping, quieted_eq]
  have result : s.stop = (.ok (), s.quieted.resume.detach) := by
    rw [stop_eq, unstuck, joined]
    rfl
  have orderly : s.quieted.resume.detach.Orderly := by
    refine ⟨?_, stepping.trans off.symm, returning.of_eq rfl, fun on => ?_, fun _ => ended⟩
    · exact run.stuck.trans (by rw [quieted_eq]; exact h.alive)
    · exact absurd (off.symm.trans on) Bool.false_ne_true
  constructor <;> rw [result]
  · exact orderly
  · exact off
  · exact run.stopping.trans (by rw [quieted_eq])
  · exact signal

theorem flags_serve (s : Simulator σ) :
    s.serve.running = s.running ∧ s.serve.stopping = s.stopping := by
  unfold serve
  split
  · exact ({ s with signal := none }).flags_stepOnce
  · exact ⟨rfl, rfl⟩

theorem flags_step (s : Simulator σ) :
    s.step.2.running = s.running ∧ s.step.2.stopping = s.stopping :=
  ⟨(flags_serve _).1.trans s.flags_stepOnce.1, (flags_serve _).2.trans s.flags_stepOnce.2⟩

end Simulator

end BoardSim
