import BoardSim.Proofs.Simulator.Orderly

/-!
# Starting and stopping again and again

What the host can rely on when it starts, steps and stops a simulator in any order
(`lifecycleContract`): an orderly simulator stays orderly, and starts and stops take turns in what
the observers hear (`InTurn`).
-/

namespace BoardSim

variable {σ : Type}

-- ---------------------------------------------------------------------------
-- Starts and stops in turn
-- ---------------------------------------------------------------------------

def Notification.isMark : Notification → Bool
  | started | stopped => true
  | _ => false

def marksOf (log : List Occasion) : List Notification :=
  (log.flatMap Occasion.notifications).filter (·.isMark)

theorem marksOf_append (a b : List Occasion) : marksOf (a ++ b) = marksOf a ++ marksOf b := by
  rw [marksOf, List.flatMap_append, List.filter_append, marksOf, marksOf]

theorem marksOf_tick (r : TickRecord) : marksOf [.tick r] = [] := by
  have unmarked : ∀ n ∈ r.notifications, ¬n.isMark = true := by
    intro n mem
    simp only [TickRecord.notifications, TickRecord.served, List.mem_append, List.mem_cons,
      List.mem_map] at mem
    rcases mem with ((rfl | ⟨_, _, rfl⟩) | ⟨_, _, rfl⟩) | last
    · exact Bool.false_ne_true
    · exact Bool.false_ne_true
    · exact Bool.false_ne_true
    · split at last
      · cases List.mem_singleton.1 last
        exact Bool.false_ne_true
      · cases last
  rw [marksOf, List.flatMap_singleton]
  exact List.filter_eq_nil_iff.2 unmarked

/-- From a simulator that runs, or not, to one that does or not: a start only while it does not,
a stop only while it does. -/
inductive InTurn : Bool → List Notification → Bool → Prop where
  | nil (running : Bool) : InTurn running [] running
  | start {rest : List Notification} {after : Bool} (later : InTurn true rest after) :
      InTurn false (.started :: rest) after
  | stop {rest : List Notification} {after : Bool} (later : InTurn false rest after) :
      InTurn true (.stopped :: rest) after

namespace InTurn

variable {before between after : Bool} {a b marks : List Notification}

theorem append (first : InTurn before a between) (second : InTurn between b after) :
    InTurn before (a ++ b) after := by
  induction first with
  | nil _ => exact second
  | start _ ih => exact .start (ih second)
  | stop _ ih => exact .stop (ih second)

theorem head? (h : InTurn before marks after) {first : Notification}
    (found : first ∈ marks.head?) : first = if before then .stopped else .started := by
  cases h with
  | nil _ => cases found
  | start _ => exact (Option.some.inj found).symm
  | stop _ => exact (Option.some.inj found).symm

theorem isChain (h : InTurn before marks after) : marks.IsChain (· ≠ ·) := by
  induction h with
  | nil _ => exact .nil
  | start later ih =>
    refine List.isChain_cons.2 ⟨fun next found => ?_, ih⟩
    rw [later.head? found]
    exact nofun
  | stop later ih =>
    refine List.isChain_cons.2 ⟨fun next found => ?_, ih⟩
    rw [later.head? found]
    exact nofun

theorem getLast? (h : InTurn before marks after) :
    (marks.getLast?.getD (if before then .started else .stopped) = .started) ↔ after = true := by
  induction h with
  | nil running => cases running <;> simp
  | start later ih =>
    rw [← ih]
    simp [List.getLast?_cons]
  | stop later ih =>
    rw [← ih]
    simp [List.getLast?_cons]

theorem getLast?_eq_started (h : InTurn false marks after) :
    marks.getLast? = some .started ↔ after = true := by
  rw [← h.getLast?]
  cases marks.getLast? <;> simp

end InTurn

-- ---------------------------------------------------------------------------
-- Any order of operations
-- ---------------------------------------------------------------------------

inductive Switch (σ : Type) where
  | start (firmware : Firmware σ)
  | step
  | stop

def Switch.action : Switch σ → HostAction σ
  | start firmware => .start firmware
  | step => .step
  | stop => .stop

def Switch.isStep : Switch σ → Bool
  | step => true
  | start _ | stop => false

namespace Simulator

variable {s : Simulator σ}

def switched (s : Simulator σ) (switches : List (Switch σ)) : Simulator σ :=
  s.after (switches.map Switch.action)

def switchDeeds (s : Simulator σ) : Switch σ → List (Deed σ)
  | .start firmware => s.startDeeds firmware
  | .step => s.stepDeeds
  | .stop => s.stopDeeds

def deedsOf (s : Simulator σ) : List (Switch σ) → List (Deed σ)
  | [] => []
  | switch :: rest => s.switchDeeds switch ++ (s.perform switch.action).deedsOf rest

theorem switched_append (s : Simulator σ) (a b : List (Switch σ)) :
    s.switched (a ++ b) = (s.switched a).switched b := by
  rw [switched, List.map_append]
  exact List.foldl_append

theorem deedsOf_append (s : Simulator σ) (a b : List (Switch σ)) :
    s.deedsOf (a ++ b) = s.deedsOf a ++ (s.switched a).deedsOf b := by
  induction a generalizing s with
  | nil => rfl
  | cons switch rest ih =>
    rw [List.cons_append, deedsOf, deedsOf, ih, List.append_assoc]
    rfl

theorem perform_start (s : Simulator σ) (firmware : Firmware σ) :
    s.perform (.start firmware) = if s.running then s else (s.launched firmware).serve := by
  simp only [perform, start_eq]
  split <;> rfl

namespace Orderly

theorem start (h : s.Orderly) {firmware : Firmware σ} (loops : firmware.Loops)
    (fits : Fit (s.startDeeds firmware)) : (s.perform (.start firmware)).Orderly := by
  rw [perform_start]
  unfold startDeeds at fits
  split
  · exact h
  · next off =>
    rw [if_neg off] at fits
    obtain ⟨launch, later⟩ := fit_append.1 fits
    exact (h.launched loops launch).serve later

theorem perform (h : s.Orderly) (switch : Switch σ)
    (loops : ∀ firmware, switch = .start firmware → firmware.Loops)
    (fits : Fit (s.switchDeeds switch)) : (s.perform switch.action).Orderly := by
  cases switch with
  | start firmware => exact h.start (loops firmware rfl) fits
  | step => exact h.step fits
  | stop => exact (h.stop fits).orderly

theorem switched (h : s.Orderly) {switches : List (Switch σ)}
    (loops : ∀ firmware, .start firmware ∈ switches → firmware.Loops)
    (fits : Fit (s.deedsOf switches)) : (s.switched switches).Orderly := by
  induction switches generalizing s with
  | nil => exact h
  | cons switch rest ih =>
    obtain ⟨first, later⟩ := fit_append.1 fits
    have next := h.perform switch
      (fun firmware started => loops firmware (started ▸ List.mem_cons_self)) first
    exact ih next (fun firmware mem => loops firmware (List.mem_cons_of_mem _ mem)) later

end Orderly

theorem marksOf_tickLog (s : Simulator σ) (woken : Bool) : marksOf (s.tickLog woken) = [] := by
  unfold tickLog
  split
  · rfl
  · exact marksOf_tick _

theorem marksOf_serveLog (s : Simulator σ) : marksOf s.serveLog = [] := by
  unfold serveLog
  split
  · exact marksOf_tickLog _ true
  · rfl

theorem running_launched (s : Simulator σ) (firmware : Firmware σ) :
    (s.launched firmware).running = true := by
  have run := onChip_runTask (({ s with running := true, stopping := false }).notify .started)
    firmware.setup firmware.pass
  exact run.running

/-- What a single operation tells of starts and stops. -/
theorem Orderly.inTurn_perform (h : s.Orderly) (switch : Switch σ)
    (fits : Fit (s.switchDeeds switch)) :
    InTurn s.running (marksOf (s.performLog switch.action)) (s.perform switch.action).running := by
  cases switch with
  | start firmware =>
    have log : s.performLog (.start firmware) = s.startLog firmware := rfl
    rw [Switch.action, perform_start, log, startLog]
    cases running : s.running with
    | true =>
      rw [if_pos rfl, if_pos rfl, running]
      exact .nil true
    | false =>
      have marks : marksOf (.started :: (s.launched firmware).serveLog) = [.started] := by
        rw [← List.singleton_append, marksOf_append, marksOf_serveLog]
        rfl
      rw [if_neg Bool.false_ne_true, if_neg Bool.false_ne_true, marks, (flags_serve _).1,
        running_launched]
      exact .start (.nil true)
  | step =>
    have marks : marksOf s.stepLog = [] := by
      rw [stepLog, marksOf_append, marksOf_tickLog, marksOf_serveLog]
      rfl
    show InTurn s.running (marksOf s.stepLog) s.step.2.running
    rw [marks, s.flags_step.1]
    exact .nil s.running
  | stop =>
    have off : (s.perform .stop).running = false := (h.stop fits).running
    have log : s.performLog .stop = s.stopLog := rfl
    rw [Switch.action, off, log, stopLog, h.alive, Bool.and_false, Bool.not_false, Bool.and_true]
    cases s.running with
    | true => exact .stop (.nil false)
    | false => exact .nil false

theorem Orderly.inTurn_switched (h : s.Orderly) {switches : List (Switch σ)}
    (loops : ∀ firmware, .start firmware ∈ switches → firmware.Loops)
    (fits : Fit (s.deedsOf switches)) :
    InTurn s.running (marksOf (s.log (switches.map Switch.action)))
      (s.switched switches).running := by
  induction switches generalizing s with
  | nil => exact .nil s.running
  | cons switch rest ih =>
    obtain ⟨first, later⟩ := fit_append.1 fits
    have next := h.perform switch
      (fun firmware started => loops firmware (started ▸ List.mem_cons_self)) first
    rw [List.map_cons, log, marksOf_append]
    exact (h.inTurn_perform switch first).append
      (ih next (fun firmware mem => loops firmware (List.mem_cons_of_mem _ mem)) later)

-- ---------------------------------------------------------------------------
-- The contract
-- ---------------------------------------------------------------------------

structure Unstarted (s : Simulator σ) : Prop where
  running : s.running = false
  stepping : s.stepping = false
  alive : s.stuck = false
  thread : s.thread = none

theorem unstarted_new (config : SimConfig) (memory : σ) : (new config memory).Unstarted :=
  ⟨rfl, rfl, rfl, rfl⟩

theorem handlersReturn_new (config : SimConfig) (memory : σ) :
    (new config memory).HandlersReturn := by
  intro line handler found
  rw [handler?_new] at found
  cases found

structure StartContract (s : Simulator σ) (firmware : Firmware σ) : Prop where
  succeeds_iff : (∃ t, s.start firmware = .ok t) ↔ s.running = false
  refused : s.running = true →
    s.start firmware = .error .alreadyRunning ∧ s.perform (.start firmware) = s
  /-- From then on the stepping loop may receive a wake-up. Up to then no tick has passed, and the
  devices and the interrupt controller are as the firmware's first calls have left them. -/
  kept : s.running = false → ∃ t : Simulator σ, s.start firmware = .ok t.serve ∧
    t.serve.running = true ∧ t.tick = s.tick ∧
      t.bus = (s.launchDeeds firmware).foldl Bus.obey s.bus

structure StopContract (s : Simulator σ) : Prop where
  succeeds : s.stop.1 = .ok ()
  stopped : s.stop.2.running = false
  unsignalled : s.stop.2.signal = none
  untold : s.running = false → s.stop.2.observers = s.observers
  kept : s.stop.2.tick = s.tick ∧ s.stop.2.bus = s.stopDeeds.foldl Bus.obey s.bus

/-- A call that waits for this is over with the answer `answer`, the host's and the firmware's. -/
structure Over (s : Simulator σ) (await : Await) (answer : Bool) : Prop where
  host : s.look? await = some answer
  firmware : ∀ (pass : Task σ Bool) (next : Bool → Task σ Bool) (attached : Bool),
    s.resumeThread ⟨pass, .blocked await next, attached⟩ = s.runTask (next answer) pass

/-- What calls come to that begin here, between a stop and the next start. Undisturbed, all of them
answer false at once. -/
structure Unblocked (s : Simulator σ) : Prop where
  waitNow : s.waitNow? = some false
  delayNow : ∀ ticks : UInt64, ticks ≠ 0 → s.tick.toNat + ticks.toNat < UInt64.size →
    s.delayNow? ticks = some false
  wait : ∀ next : Bool → Task σ Bool, (Task.wait next).run s = (next false).run s
  delay : ∀ (ticks : UInt64) (next : Bool → Task σ Bool), ticks ≠ 0 →
    s.tick.toNat + ticks.toNat < UInt64.size → (Task.delay ticks next).run s = (next false).run s
  waited : ∀ amid : List (Switch σ), (∀ firmware, .start firmware ∉ amid) →
    (s.switched amid).Over s.awaitDispatch false
  /-- A delay answers true if the steps between its two sections have brought its tick. -/
  delayed : ∀ amid : List (Switch σ), (∀ firmware, .start firmware ∉ amid) → ∀ ticks : UInt64,
    s.tick.toNat + ticks.toNat < UInt64.size →
      (s.switched amid).Over (s.awaitTicks ticks)
        (s.tick.toNat + ticks.toNat ≤ (s.tick.toNat + amid.countP (·.isStep)) % UInt64.size)

structure LifecycleContract (s : Simulator σ) (switches : List (Switch σ)) : Prop where
  start : ∀ before firmware rest, switches = before ++ .start firmware :: rest →
    StartContract (s.switched before) firmware
  stop : ∀ before rest, switches = before ++ .stop :: rest → StopContract (s.switched before)
  /-- Starts and stops take turns in what every observer hears, a start first, and the last one
  tells whether the simulator runs. -/
  heard : ∃ heard : List Notification,
    (∀ (i : Nat) (o : Observer), s.observers[i]? = some o →
      (s.switched switches).observers[i]? = some (o.hear heard)) ∧
    (heard.filter (·.isMark)).IsChain (· ≠ ·) ∧
    (∀ first ∈ (heard.filter (·.isMark)).head?, first = .started) ∧
    ((heard.filter (·.isMark)).getLast? = some .started ↔ (s.switched switches).running = true)
  unblocked : ∀ before between rest, switches = before ++ .stop :: between ++ rest →
    (∀ firmware, .start firmware ∉ between) →
      Unblocked (s.switched (before ++ .stop :: between))

theorem startContract (s : Simulator σ) (firmware : Firmware σ) : StartContract s firmware := by
  have run := onChip_runTask (({ s with running := true, stopping := false }).notify .started)
    firmware.setup firmware.pass
  refine ⟨?_, fun on => ?_, fun off => ⟨s.launched firmware, ?_, ?_, run.tick, ?_⟩⟩
  · rw [start_eq]
    cases s.running <;> simp
  · rw [start_eq, perform_start, on]
    exact ⟨rfl, rfl⟩
  · rw [start_eq, off]
    rfl
  · rw [(flags_serve _).1, running_launched]
  · exact bus_runTask _ _ _

theorem Orderly.stopContract (h : s.Orderly) (fits : Fit s.stopDeeds) : StopContract s := by
  have stopped := h.stop fits
  have result : s.stop.2 = s.quieted.resume.detach := by
    rw [stop_eq, h.alive, Bool.and_false]
    rfl
  have deeds : s.stopDeeds = s.quieted.resumeDeeds := by
    rw [stopDeeds, h.alive, Bool.and_false]
    rfl
  obtain ⟨_, run⟩ := s.quieted.exists_onChip_resume
  refine ⟨stopped.answer, stopped.running, stopped.signal, fun off => ?_, ?_, ?_⟩
  · rw [result]
    refine run.observers.trans ?_
    simp [quieted, off, halted, post]
  · rw [result]
    exact run.tick.trans (by rw [quieted_eq])
  · rw [result, deeds]
    refine (bus_resume _).trans ?_
    rw [show s.quieted.bus = s.bus by rw [quieted_eq]]

-- ---------------------------------------------------------------------------
-- Between a stop and the next start
-- ---------------------------------------------------------------------------

structure Resting (s : Simulator σ) : Prop where
  orderly : s.Orderly
  running : s.running = false
  stopping : s.stopping = true

theorem Orderly.resting_stop (h : s.Orderly) (fits : Fit s.stopDeeds) : (s.perform .stop).Resting :=
  have stopped := h.stop fits
  ⟨stopped.orderly, stopped.running, stopped.stopping⟩

namespace Resting

theorem stepDeeds_eq (h : s.Resting) : s.stepDeeds = [] := by
  have told := s.tickTold_runTick false
  have ended : s.runTick.2.Ended := fun thread found =>
    h.orderly.ended h.running thread (told.thread ▸ found)
  have off : s.stepOnce.2.running = false := s.flags_stepOnce.1.trans h.running
  rw [stepDeeds, tickDeeds, h.orderly.alive, if_neg Bool.false_ne_true, (resume_of_ended ended).2,
    serveDeeds, awaited, off]
  rfl

theorem stopDeeds_eq (h : s.Resting) : s.stopDeeds = [] := by
  have ended : s.quieted.Ended := fun thread found =>
    h.orderly.ended h.running thread (by rwa [quieted_eq] at found)
  rw [stopDeeds, h.orderly.alive, Bool.and_false, if_neg Bool.false_ne_true,
    (resume_of_ended ended).2]

theorem tick_step (h : s.Resting) : s.step.2.tick = s.tick + 1 := by
  have ended : (s.tickRecord false).ended = true := by
    simp [tickRecord, (alive_runTick h.orderly.alive h.orderly.returning).1]
  rw [s.tells_step.tick, (step_of_not_running h.running).1, tickLog, h.orderly.alive,
    if_neg Bool.false_ne_true]
  simp [ticksOf, Occasion.record?, ended]

theorem perform (h : s.Resting) (switch : Switch σ)
    (unstarted : ∀ firmware, switch ≠ .start firmware) :
    (s.perform switch.action).Resting ∧ (s.perform switch.action).tick =
      s.tick + UInt64.ofNat ([switch].countP (·.isStep)) := by
  cases switch with
  | start firmware => exact absurd rfl (unstarted firmware)
  | step =>
    have fits : Fit s.stepDeeds := h.stepDeeds_eq ▸ fit_nil
    have flags := s.flags_step
    exact ⟨⟨h.orderly.step fits, flags.1.trans h.running, flags.2.trans h.stopping⟩, h.tick_step⟩
  | stop =>
    have fits : Fit s.stopDeeds := h.stopDeeds_eq ▸ fit_nil
    refine ⟨h.orderly.resting_stop fits, ?_⟩
    exact (h.orderly.stopContract fits).kept.1.trans (UInt64.add_zero _).symm

/-- It stays like this until the next start, and each step is a tick. -/
theorem switched (h : s.Resting) {switches : List (Switch σ)}
    (unstarted : ∀ firmware, .start firmware ∉ switches) :
    (s.switched switches).Resting ∧
      (s.switched switches).tick = s.tick + UInt64.ofNat (switches.countP (·.isStep)) := by
  induction switches generalizing s with
  | nil => exact ⟨h, (UInt64.add_zero _).symm⟩
  | cons switch rest ih =>
    obtain ⟨resting, tick⟩ := h.perform switch fun firmware first =>
      unstarted firmware (first ▸ List.mem_cons_self)
    obtain ⟨last, ticks⟩ := ih resting fun firmware mem =>
      unstarted firmware (List.mem_cons_of_mem _ mem)
    refine ⟨last, ticks.trans ?_⟩
    rw [tick, UInt64.add_assoc, ← UInt64.ofNat_add, ← List.countP_append, List.singleton_append]

theorem over_dispatch (h : s.Resting) (seen : UInt64) : s.Over (.dispatch seen) false := by
  have answer := look?_dispatch_of_stopping h.stopping seen
  exact ⟨answer, fun pass next attached => by simp only [resumeThread, answer]⟩

theorem over_tick (h : s.Resting) (target : UInt64) : s.Over (.tick target) (target ≤ s.tick) := by
  have answer := look?_tick_of_stopping h.stopping target
  exact ⟨answer, fun pass next attached => by simp only [resumeThread, answer]⟩

theorem unblocked (h : s.Resting) : Unblocked s where
  waitNow := look?_dispatch_of_stopping h.stopping _
  delayNow ticks positive fits := look?_awaitTicks_of_stopping h.stopping positive fits
  wait next := by simp only [Task.run, awaitDispatch, look?_dispatch_of_stopping h.stopping]
  delay ticks next positive fits := by
    simp only [Task.run, look?_awaitTicks_of_stopping h.stopping positive fits]
  waited amid unstarted := (h.switched unstarted).1.over_dispatch _
  delayed amid unstarted ticks fits := by
    obtain ⟨resting, tick⟩ := h.switched unstarted
    have due : s.tick + ticks ≤ (s.switched amid).tick ↔
        s.tick.toNat + ticks.toNat ≤ (s.tick.toNat + amid.countP (·.isStep)) % UInt64.size := by
      rw [tick, UInt64.le_iff_toNat_le, UInt64.toNat_add, Nat.mod_eq_of_lt fits, UInt64.toNat_add,
        UInt64.toNat_ofNat', Nat.add_mod_mod]
    rw [← decide_eq_decide.2 due]
    exact resting.over_tick _

end Resting

theorem lifecycleContract (unstarted : s.Unstarted) (returning : s.HandlersReturn)
    {switches : List (Switch σ)} (loops : ∀ firmware, .start firmware ∈ switches → firmware.Loops)
    (fits : Fit (s.deedsOf switches)) : LifecycleContract s switches := by
  have orderly : s.Orderly := by
    refine ⟨unstarted.alive, unstarted.stepping.trans unstarted.running.symm, returning,
      fun on => ?_, fun _ thread found => ?_⟩
    · rw [unstarted.running] at on
      cases on
    · rw [unstarted.thread] at found
      cases found
  have tells := s.tells_after (switches.map Switch.action)
  have turns := orderly.inTurn_switched loops fits
  rw [unstarted.running] at turns
  have halts {before rest : List (Switch σ)} (split : switches = before ++ .stop :: rest) :
      (s.switched before).Orderly ∧ Fit (s.switched before).stopDeeds := by
    rw [split, deedsOf_append, fit_append] at fits
    exact ⟨orderly.switched (fun firmware mem =>
      loops firmware (split ▸ List.mem_append_left _ mem)) fits.1, (fit_append.1 fits.2).1⟩
  refine ⟨fun before firmware rest split => startContract _ firmware, fun before rest split => ?_,
    ⟨_, tells.heard, turns.isChain, fun _ found => turns.head? found, turns.getLast?_eq_started⟩,
    fun before between rest split quiet => ?_⟩
  · obtain ⟨now, fits⟩ := halts split
    exact now.stopContract fits
  · obtain ⟨now, fits⟩ := halts (split.trans (List.append_assoc ..))
    rw [switched_append]
    exact ((now.resting_stop fits).switched quiet).1.unblocked

def bare : Simulator Unit := .new { irqLines := 32 } ()

def delaying : Firmware Unit := { setup := .done true, pass := Task.delayTicks 2 }

def waiting : Firmware Unit := { setup := .done true, pass := Task.waitForInterrupt }

def rounds : List (Switch Unit) :=
  [.start delaying, .step, .start waiting, .step, .step, .stop, .step, .stop, .start waiting, .step,
    .stop]

theorem lifecycleContract_rounds : LifecycleContract bare rounds := by
  have loops : ∀ firmware, .start firmware ∈ rounds → firmware.Loops := by
    intro firmware mem
    simp only [rounds, List.mem_cons, Switch.start.injEq, reduceCtorEq, List.not_mem_nil, or_false,
      false_or] at mem
    rcases mem with rfl | rfl | rfl
    · exact ⟨trivial, by decide, rfl, trivial⟩
    · exact ⟨trivial, rfl, trivial⟩
    · exact ⟨trivial, rfl, trivial⟩
  exact lifecycleContract (unstarted_new _ _) (handlersReturn_new _ _) loops (by decide +kernel)

/-- A call for one tick that begins after the stop answers true if the tick comes before it
looks. -/
theorem not_false_of_step_amid :
    let s := bare.switched [.start delaying, .step, .stop]
    ¬∀ (amid : List (Switch Unit)) (ticks : UInt64), (∀ firmware, .start firmware ∉ amid) →
      ticks ≠ 0 → s.tick.toNat + ticks.toNat < UInt64.size →
        (s.switched amid).look? (s.awaitTicks ticks) = some false := by
  intro s always
  have step : (s.switched [.step]).look? (s.awaitTicks 1) = some true := by decide +kernel
  rw [always [.step] 1 (by simp) (by decide) (by decide +kernel)] at step
  cases step

end Simulator

end BoardSim
