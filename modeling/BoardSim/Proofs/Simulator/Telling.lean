import BoardSim.Proofs.Observer.Occasion
import BoardSim.Proofs.Simulator.Devices
import BoardSim.Proofs.Simulator.Frame

/-!
# What observers hear

An operation tells the observers a log of occasions, and moves the tick counter on by the ticks in
it (`Tells`); one that is made of others tells what they tell, in order. `tellingContract` says of
every run what each observer hears and what metrics come to.
-/

namespace BoardSim

variable {σ : Type}

namespace Simulator

-- ---------------------------------------------------------------------------
-- A tick
-- ---------------------------------------------------------------------------

/-- A part of a tick: the observers hear the notifications in order, and neither the tick counter
nor what the host and the firmware thread are at has changed. -/
structure Hears (s t : Simulator σ) (heard : List Notification) : Prop where
  observers : t.observers = s.observers.map fun o => o.hear heard
  tick : t.tick = s.tick
  running : t.running = s.running
  stopping : t.stopping = s.stopping
  stepping : t.stepping = s.stepping
  thread : t.thread = s.thread

namespace Hears

variable {r s t : Simulator σ} {a b : List Notification}

theorem trans (first : r.Hears s a) (second : s.Hears t b) : r.Hears t (a ++ b) where
  observers := by
    rw [second.observers, first.observers, Array.map_map]
    exact congrArg (r.observers.map ·) (funext fun o => (o.hear_append a b).symm)
  tick := second.tick.trans first.tick
  running := second.running.trans first.running
  stopping := second.stopping.trans first.stopping
  stepping := second.stepping.trans first.stepping
  thread := second.thread.trans first.thread

theorem refl (s : Simulator σ) : s.Hears s [] :=
  ⟨by simp [Observer.hear], rfl, rfl, rfl, rfl, rfl⟩

theorem notify (s : Simulator σ) (n : Notification) : s.Hears (s.notify n) [n] :=
  ⟨rfl, rfl, rfl, rfl, rfl, rfl⟩

theorem of_onChip (h : s.OnChip t) : s.Hears t [] where
  observers := by simp [h.observers, Observer.hear]
  tick := h.tick
  running := h.running
  stopping := h.stopping
  stepping := h.stepping
  thread := h.thread

end Hears

theorem hears_foldl {β : Type} (f : β → Notification) (l : List β) (s : Simulator σ) :
    s.Hears (l.foldl (fun s x => s.notify (f x)) s) (l.map f) := by
  induction l generalizing s with
  | nil => exact .refl s
  | cons x rest ih => exact (Hears.notify s (f x)).trans (ih _)

def tickRecord (s : Simulator σ) (woken : Bool) : TickRecord where
  report := s.runTick.1
  results := s.bus.entries.toList.map fun e => (e.name, (e.device.advance s.config.tick).2)
  ended := !s.runTick.2.stuck
  woken := woken

theorem hears_updated (s : Simulator σ) (woken : Bool) :
    s.Hears s.updated (.tickStarted (s.tick + 1) ::
      (s.tickRecord woken).results.map fun (name, result) => .deviceUpdated name result) := by
  have results : (s.bus.advanceDevices s.config.tick).1.map
      (fun x : String × Option UInt32 × TickResult => Notification.deviceUpdated x.1 x.2.2) =
        (s.tickRecord woken).results.map fun (name, result) => .deviceUpdated name result := by
    simp [Bus.advanceDevices, Bus.advanceEntry, tickRecord]
  have told := hears_foldl
    (fun x : String × Option UInt32 × TickResult => Notification.deviceUpdated x.1 x.2.2)
    (s.bus.advanceDevices s.config.tick).1
    { s.notify (.tickStarted (s.tick + 1)) with bus := (s.bus.advanceDevices s.config.tick).2 }
  rw [results] at told
  obtain ⟨observers, tick, running, stopping, stepping, thread⟩ := told
  refine (Hears.notify s (.tickStarted (s.tick + 1))).trans ?_
  exact ⟨observers, tick, running, stopping, stepping, thread⟩

theorem hears_runHandler (s : Simulator σ) (line : UInt32) (tick : UInt64) :
    s.Hears (s.runHandler line tick) [] := by
  obtain ⟨stuck, run⟩ := s.exists_onChip_runHandler line tick
  obtain ⟨observers, tick, running, stopping, stepping, thread⟩ := Hears.of_onChip run
  exact ⟨observers, tick, running, stopping, stepping, thread⟩

theorem hears_dispatchLines (s : Simulator σ) (tick : UInt64) (lines : List UInt32) :
    s.Hears (s.dispatchLines tick lines).2
      ((s.dispatchLines tick lines).1.map .lineDispatched) := by
  induction s, lines using dispatchLines_induction tick with
  | stopped s lines h =>
    rw [dispatchLines_of_stuck h]
    exact .refl s
  | through s h => exact .refl s
  | skip s line rest h unready ih =>
    rw [dispatchLines_skip unready]
    exact ih
  | serve s line rest h ready ih =>
    have consumed : s.Hears (s.consume line) [.lineDispatched line] :=
      ⟨rfl, rfl, rfl, rfl, rfl, rfl⟩
    rw [dispatchLines_serve h ready]
    exact (consumed.trans (hears_runHandler _ line tick)).trans ih

theorem hears_turn (s : Simulator σ) (woken : Bool) :
    s.Hears (s.turn s.ready) (s.tickRecord woken).served :=
  (s.hears_updated woken).trans (hears_dispatchLines _ _ _)

structure TickTold (s t : Simulator σ) (record : TickRecord) : Prop where
  observers : t.observers = s.observers.map fun o => o.hear record.notifications
  tick : t.tick = if record.ended then s.tick + 1 else s.tick
  running : t.running = s.running
  stopping : t.stopping = s.stopping
  stepping : t.stepping = s.stepping
  thread : t.thread = s.thread

theorem tickTold_runTick (s : Simulator σ) (woken : Bool) :
    s.TickTold s.runTick.2 (s.tickRecord woken) := by
  have turn := s.hears_turn woken
  have ended : (s.tickRecord woken).ended = !(s.turn s.ready).stuck := by
    show (!s.runTick.2.stuck) = _
    rw [snd_runTick, stuck_endTick]
  rw [snd_runTick, endTick]
  generalize s.turn s.ready = t at turn ended ⊢
  cases stuck : t.stuck with
  | true =>
    rw [stuck] at ended
    refine ⟨?_, ?_, turn.running, turn.stopping, turn.stepping, turn.thread⟩
    · rw [TickRecord.notifications, ended]
      simpa using turn.observers
    · rw [ended]
      exact turn.tick
  | false =>
    rw [stuck] at ended
    have told : (s.tickRecord woken).notifications =
        (s.tickRecord woken).served ++ [.tickEnded (s.tick + 1)] := by
      rw [TickRecord.notifications, ended]
      rfl
    have last := turn.trans (Hears.notify t (.tickEnded (s.tick + 1)))
    refine ⟨?_, ?_, turn.running, turn.stopping, turn.stepping, turn.thread⟩
    · rw [told]
      exact last.observers
    · rw [ended]
      rfl

-- ---------------------------------------------------------------------------
-- A run
-- ---------------------------------------------------------------------------

def tickLog (s : Simulator σ) (woken : Bool) : List Occasion :=
  if s.stuck then [] else [.tick (s.tickRecord woken)]

def serveLog (s : Simulator σ) : List Occasion :=
  if s.awaited then ({ s with signal := none }).tickLog true else []

def stepLog (s : Simulator σ) : List Occasion := s.tickLog false ++ s.stepOnce.2.serveLog

/-- The firmware has been started and has run to where it blocks; the loop has received nothing. -/
def launched (s : Simulator σ) (firmware : Firmware σ) : Simulator σ :=
  let s := ({ s with running := true, stopping := false }).notify .started
  let (progress, s) := s.runTask firmware.setup firmware.pass
  { s with thread := some { pass := firmware.pass, progress }, stepping := true }

def startLog (s : Simulator σ) (firmware : Firmware σ) : List Occasion :=
  if s.running then [] else .started :: (s.launched firmware).serveLog

/-- A loop that is stuck in a handler keeps a stop from being told. -/
def stopLog (s : Simulator σ) : List Occasion :=
  if s.running && !(s.stepping && s.stuck) then [.stopped] else []

def performLog (s : Simulator σ) : HostAction σ → List Occasion
  | .step => s.stepLog
  | .request line => (s.raise line true).2.serveLog
  | .start firmware => s.startLog firmware
  | .stop => s.stopLog
  | .call _ | .install .. | .observe _ | .interrupts _ | .serve .. | .startTrace | .takeTrace => []

def log (s : Simulator σ) : List (HostAction σ) → List Occasion
  | [] => []
  | action :: rest => s.performLog action ++ (s.perform action).log rest

/-- From `s` to `t` the observers of `s` hear `log`, whose ticks follow the tick counter. -/
structure Tells (s t : Simulator σ) (log : List Occasion) : Prop where
  heard : ∀ (i : Nat) (o : Observer), s.observers[i]? = some o →
    t.observers[i]? = some (o.hear (log.flatMap Occasion.notifications))
  numbered : (ticksOf log).map (·.report.tick) =
    (List.range (ticksOf log).length).map fun k => s.tick + UInt64.ofNat (k + 1)
  last : (ticksOf log).Pairwise fun r _ => r.ended = true
  stopped : s.stuck = true → ticksOf log = []
  tick : t.tick = s.tick + UInt64.ofNat ((ticksOf log).countP (·.ended))
  stuck : t.stuck = false ↔ s.stuck = false ∧ ∀ r ∈ ticksOf log, r.ended = true

namespace Tells

variable {r s t : Simulator σ} {a b : List Occasion}

/-- Nothing is told. -/
theorem aside (observers : t.observers = s.observers) (tick : t.tick = s.tick)
    (stuck : t.stuck = s.stuck) : s.Tells t [] where
  heard i o found := by simpa [observers, Observer.hear] using found
  numbered := rfl
  last := .nil
  stopped _ := rfl
  tick := by simpa [ticksOf] using tick
  stuck := by simp [stuck, ticksOf]

theorem refl (s : Simulator σ) : s.Tells s [] := aside rfl rfl rfl

theorem of_onChip (h : s.OnChip t) : s.Tells t [] := aside h.observers h.tick h.stuck

theorem trans (first : r.Tells s a) (second : s.Tells t b) : r.Tells t (a ++ b) where
  heard i o found := by
    rw [List.flatMap_append, Observer.hear_append]
    exact second.heard i _ (first.heard i o found)
  numbered := by
    rw [ticksOf_append, List.map_append, first.numbered, second.numbered, List.length_append,
      List.range_add, List.map_append, List.map_map]
    congr 1
    cases stuck : s.stuck with
    | true => simp [second.stopped stuck]
    | false =>
      have all : (ticksOf a).countP (·.ended) = (ticksOf a).length :=
        List.countP_eq_length.2 (first.stuck.1 stuck).2
      refine List.map_congr_left fun k _ => ?_
      rw [first.tick, all, UInt64.add_assoc, ← UInt64.ofNat_add]
      rfl
  last := by
    rw [ticksOf_append, List.pairwise_append]
    refine ⟨first.last, second.last, fun x before y after => ?_⟩
    by_contra unended
    have stuck : s.stuck = true := by
      rw [← Bool.not_eq_false, first.stuck]
      exact fun ⟨_, ended⟩ => unended (ended x before)
    rw [second.stopped stuck] at after
    cases after
  stopped stuck := by
    have none := first.stopped stuck
    have still : s.stuck = true := by
      rw [← Bool.not_eq_false, first.stuck]
      simp [stuck]
    rw [ticksOf_append, none, second.stopped still, List.append_nil]
  tick := by
    rw [second.tick, first.tick, ticksOf_append, List.countP_append, UInt64.ofNat_add,
      UInt64.add_assoc]
  stuck := by
    rw [second.stuck, first.stuck, ticksOf_append, List.forall_mem_append, and_assoc]

theorem quietly (first : r.Tells s a) (second : s.Tells t []) : r.Tells t a := by
  simpa using first.trans second

end Tells

theorem tells_runTick {s : Simulator σ} (alive : s.stuck = false) (woken : Bool) :
    s.Tells s.runTick.2 [.tick (s.tickRecord woken)] := by
  have told := s.tickTold_runTick woken
  refine ⟨fun i o found => ?_, ?_, List.pairwise_singleton _ _, by simp [alive], ?_, ?_⟩
  · rw [told.observers, Array.getElem?_map, found]
    simp [Occasion.notifications]
  · rfl
  · rw [told.tick]
    cases ended : (s.tickRecord woken).ended <;> simp [ticksOf, Occasion.record?, ended]
  · simp [ticksOf, Occasion.record?, tickRecord, alive]

theorem tells_resume (s : Simulator σ) : s.Tells s.resume [] := by
  obtain ⟨thread, run⟩ := s.exists_onChip_resume
  exact .aside run.observers run.tick run.stuck

theorem tells_stepOnce (s : Simulator σ) (woken : Bool) :
    s.Tells s.stepOnce.2 (s.tickLog woken) := by
  unfold stepOnce tickLog
  split
  · exact .refl s
  · next alive =>
    have ticked := tells_runTick (Bool.eq_false_iff.2 alive) woken
    exact ticked.quietly (tells_resume _)

theorem tells_serve (s : Simulator σ) : s.Tells s.serve s.serveLog := by
  have received : s.Tells { s with signal := none } [] := .aside rfl rfl rfl
  unfold serve serveLog
  split
  · exact received.trans (tells_stepOnce _ true)
  · exact .refl s

theorem tells_step (s : Simulator σ) : s.Tells s.step.2 s.stepLog :=
  (s.tells_stepOnce false).trans (tells_serve _)

theorem tells_request (s : Simulator σ) (line : UInt32) :
    s.Tells (s.request line).2 (s.raise line true).2.serveLog :=
  (Tells.of_onChip (s.onChip_raise line true)).trans (tells_serve _)

theorem tells_notify (s : Simulator σ) {n : Notification} {o : Occasion}
    (told : o.notifications = [n]) (apart : o.record? = none) : s.Tells (s.notify n) [o] where
  heard i o found := by simp [notify, found, told, Observer.hear]
  numbered := by simp [ticksOf, apart]
  last := by simp [ticksOf, apart]
  stopped _ := by simp [ticksOf, apart]
  tick := by simp [ticksOf, apart, notify]
  stuck := by simp [ticksOf, apart, notify]

theorem start_eq (s : Simulator σ) (firmware : Firmware σ) :
    s.start firmware =
      if s.running then .error .alreadyRunning else .ok (s.launched firmware).serve := rfl

theorem tells_launched (s : Simulator σ) (firmware : Firmware σ) :
    s.Tells (s.launched firmware) [.started] := by
  have set : s.Tells { s with running := true, stopping := false } [] := .aside rfl rfl rfl
  have told := set.trans (tells_notify _ (n := .started) (o := .started) rfl rfl)
  have run := Tells.of_onChip (onChip_runTask
    (({ s with running := true, stopping := false }).notify .started) firmware.setup firmware.pass)
  exact (told.quietly run).quietly (.aside rfl rfl rfl)

def halted (s : Simulator σ) : Simulator σ :=
  ({ s with running := false, stopping := true, stepping := false }).post .stop

def quieted (s : Simulator σ) : Simulator σ :=
  let t := { s.halted with signal := none }
  if s.running then t.notify .stopped else t

theorem stop_eq (s : Simulator σ) :
    s.stop =
      if s.stepping && s.stuck then
        (.error (.shutdownTimeout s.config.joinTimeout), s.halted.resume.detach)
      else
        (if s.attached && !s.quieted.resume.returned then
          .error (.shutdownTimeout s.config.joinTimeout)
        else .ok (), s.quieted.resume.detach) := rfl

theorem tells_quieted (s : Simulator σ) :
    s.Tells s.quieted (if s.running then [.stopped] else []) := by
  have halted : s.Tells { s.halted with signal := none } [] := .aside rfl rfl rfl
  simp only [quieted]
  split
  · exact halted.trans (tells_notify _ rfl rfl)
  · exact halted

theorem tells_stop (s : Simulator σ) : s.Tells s.stop.2 s.stopLog := by
  have detached (t : Simulator σ) : t.Tells t.resume.detach [] :=
    (tells_resume t).quietly (.aside rfl rfl rfl)
  rw [stop_eq, stopLog]
  cases s.stepping && s.stuck with
  | true =>
    have halted : s.Tells s.halted [] := .aside rfl rfl rfl
    rw [Bool.not_true, Bool.and_false]
    exact halted.quietly (detached _)
  | false =>
    rw [Bool.not_false, Bool.and_true]
    exact s.tells_quieted.quietly (detached _)

theorem tells_perform (s : Simulator σ) (action : HostAction σ) :
    s.Tells (s.perform action) (s.performLog action) := by
  cases action with
  | call c =>
    simp only [perform, performLog]
    split
    · exact .refl s
    · exact .of_onChip (s.onChip_answer c)
  | step => exact s.tells_step
  | request line => exact s.tells_request line
  | install line handler =>
    simp only [perform, performLog]
    cases installed : s.install line handler with
    | ok t => exact .of_onChip (onChip_install installed)
    | error e => exact .refl s
  | start firmware =>
    simp only [perform, performLog, start_eq, startLog]
    split
    · exact .refl s
    · exact (s.tells_launched firmware).trans (tells_serve _)
  | stop => exact s.tells_stop
  | observe o =>
    have same := Tells.refl s
    refine ⟨fun i known found => ?_, rfl, .nil, fun _ => rfl, same.tick, same.stuck⟩
    have inside := (Array.getElem?_eq_some_iff.1 found).1
    have kept : (s.observers.push o)[i]? = s.observers[i]? :=
      (Array.getElem?_push_lt inside).trans (Array.getElem?_eq_getElem inside).symm
    exact kept.trans (same.heard i known found)
  | interrupts f => exact .aside rfl rfl rfl
  | serve index f served =>
    simp only [perform, performLog]
    split
    · exact .aside rfl rfl rfl
    · exact .refl s
  | startTrace => exact .aside rfl rfl rfl
  | takeTrace => exact .aside rfl rfl rfl

theorem tells_after (s : Simulator σ) (actions : List (HostAction σ)) :
    s.Tells (s.after actions) (s.log actions) := by
  induction actions generalizing s with
  | nil => exact .refl s
  | cons action rest ih => exact (s.tells_perform action).trans (ih _)

-- ---------------------------------------------------------------------------
-- Running ticks
-- ---------------------------------------------------------------------------

def hostTicks (log : List Occasion) : List TickRecord := (ticksOf log).filter fun r => !r.woken

theorem log_append (s : Simulator σ) (a b : List (HostAction σ)) :
    s.log (a ++ b) = s.log a ++ (s.after a).log b := by
  induction a generalizing s with
  | nil => rfl
  | cons action rest ih =>
    rw [List.cons_append, log, log, ih, List.append_assoc]
    rfl

theorem hostTicks_append (a b : List Occasion) :
    hostTicks (a ++ b) = hostTicks a ++ hostTicks b := by
  rw [hostTicks, ticksOf_append, List.filter_append, hostTicks, hostTicks]

/-- A step answers with the report of the tick it has told. -/
theorem dispatched_step (s : Simulator σ) :
    s.step.1.dispatched = (hostTicks s.stepLog).flatMap (·.report.dispatched) := by
  have served : hostTicks s.stepOnce.2.serveLog = [] := by
    unfold serveLog tickLog
    split
    · split <;> rfl
    · rfl
  rw [stepLog, hostTicks_append, served, List.append_nil]
  simp only [step, stepOnce, tickLog]
  split
  · rfl
  · exact (List.append_nil _).symm

theorem log_step {s : Simulator σ} (alive : s.stuck = false) (rest : List (HostAction σ)) :
    ∃ later, s.log (.step :: rest) = .tick (s.tickRecord false) :: later ∧
      (s.tickRecord false).report = s.step.1 := by
  refine ⟨s.stepOnce.2.serveLog ++ s.step.2.log rest, ?_, ?_⟩
  · rw [log, performLog, stepLog, tickLog, alive]
    rfl
  · simp [step, stepOnce, alive, tickRecord]

theorem sumTicks_eq (s : Simulator σ) (n : Nat) :
    s.sumTicks n =
      (UInt64.ofNat ((hostTicks (s.log (.replicate n .step))).flatMap (·.report.dispatched)).length,
        s.after (.replicate n .step)) := by
  induction n with
  | zero => rfl
  | succ n ih =>
    have last : s.sumTicks (n + 1) =
        ((s.sumTicks n).1 + UInt64.ofNat (s.sumTicks n).2.step.1.dispatched.length,
          (s.sumTicks n).2.step.2) := rfl
    have split : s.log (.replicate (n + 1) .step) =
        s.log (.replicate n .step) ++ (s.after (.replicate n .step)).stepLog := by
      rw [List.replicate_succ', log_append]
      exact congrArg (_ ++ ·) (List.append_nil _)
    have after : s.after (.replicate (n + 1) .step) = (s.after (.replicate n .step)).step.2 := by
      rw [List.replicate_succ', Simulator.after, List.foldl_append]
      rfl
    rw [last, ih, dispatched_step, split, after, hostTicks_append, List.flatMap_append,
      List.length_append, UInt64.ofNat_add]

theorem runTicks_eq (s : Simulator σ) (n : Nat) :
    s.runTicks n =
      (((hostTicks (s.log (.replicate n .step))).flatMap (·.report.dispatched)).length %
          UInt64.size, s.after (.replicate n .step)) := by
  rw [runTicks, sumTicks_eq]
  exact congrArg (·, _) UInt64.toNat_ofNat'

theorem flags_stepOnce (s : Simulator σ) :
    s.stepOnce.2.running = s.running ∧ s.stepOnce.2.stopping = s.stopping := by
  unfold stepOnce
  split
  · exact ⟨rfl, rfl⟩
  · have told := s.tickTold_runTick false
    obtain ⟨thread, run⟩ := s.runTick.2.exists_onChip_resume
    exact ⟨run.running.trans told.running, run.stopping.trans told.stopping⟩

/-- While nothing runs, a step makes its own tick and no other. -/
theorem step_of_not_running {s : Simulator σ} (h : s.running = false) :
    s.stepLog = s.tickLog false ∧ s.step.2.running = false := by
  have off : s.stepOnce.2.running = false := s.flags_stepOnce.1.trans h
  have unawaited : s.stepOnce.2.awaited = false := by simp [awaited, off]
  have served : s.step.2 = s.stepOnce.2 := by
    show s.stepOnce.2.serve = _
    rw [serve, unawaited]
    rfl
  refine ⟨?_, by rw [served, off]⟩
  rw [stepLog, serveLog, unawaited]
  exact List.append_nil _

theorem hostTicks_of_not_running {s : Simulator σ} (h : s.running = false) (n : Nat) :
    hostTicks (s.log (.replicate n .step)) = ticksOf (s.log (.replicate n .step)) ∧
      ((s.after (.replicate n .step)).stuck = false →
        (ticksOf (s.log (.replicate n .step))).length = n) := by
  induction n generalizing s with
  | zero => exact ⟨rfl, fun _ => rfl⟩
  | succ n ih =>
    obtain ⟨made, off⟩ := step_of_not_running h
    obtain ⟨own, count⟩ := ih off
    have first : s.log (.replicate (n + 1) .step) =
        s.tickLog false ++ s.step.2.log (.replicate n .step) :=
      congrArg (· ++ s.step.2.log (.replicate n .step)) made
    rw [first, hostTicks_append, ticksOf_append, own]
    refine ⟨congrArg (· ++ _) ?_, fun ended => ?_⟩
    · unfold tickLog
      split <;> rfl
    · have alive : s.stuck = false :=
        ((s.tells_after (.replicate (n + 1) .step)).stuck.1 ended).1
      rw [List.length_append, count ended, tickLog, alive]
      exact Nat.add_comm 1 n

structure TellingContract (s : Simulator σ) (actions : List (HostAction σ)) : Prop where
  heard : ∀ (i : Nat) (o : Observer), s.observers[i]? = some o →
    (s.after actions).observers[i]? =
      some (o.hear ((s.log actions).flatMap Occasion.notifications))
  recorded : ∀ (i : Nat) (seen : Array Notification), s.observers[i]? = some (.recorder seen) →
    (s.after actions).observers[i]? =
      some (.recorder (seen ++ ((s.log actions).flatMap Occasion.notifications).toArray))
  numbered : (ticksOf (s.log actions)).map (·.report.tick) =
    (List.range (ticksOf (s.log actions)).length).map fun k => s.tick + UInt64.ofNat (k + 1)
  last : (ticksOf (s.log actions)).Pairwise fun r _ => r.ended = true
  ended : (s.after actions).stuck = false → ∀ r ∈ ticksOf (s.log actions), r.ended = true
  stepped : ∀ before rest, actions = before ++ .step :: rest → (s.after before).stuck = false →
    ∃ r later, s.log actions = s.log before ++ .tick r :: later ∧
      r.report = (s.after before).step.1 ∧
      r.results = (s.after before).bus.entries.toList.map fun e =>
        (e.name, (e.device.advance (s.after before).config.tick).2)
  counted : ∀ i : Nat, s.observers[i]? = some (.metrics {}) →
    ∃ m, (s.after actions).observers[i]? = some (.metrics m) ∧ m.Counts (s.log actions)
  /-- The answer to a call for `n` ticks counts what the ticks that it makes itself dispatch: all of
  them unless the stepping loop makes some, too. -/
  ran : ∀ n, actions = .replicate n .step →
    s.runTicks n = (((hostTicks (s.log actions)).flatMap (·.report.dispatched)).length %
        UInt64.size, s.after actions) ∧
    (s.running = false → (s.runTicks n).1 = (dispatchedIn (s.log actions)).length % UInt64.size ∧
      ((s.after actions).stuck = false → (ticksOf (s.log actions)).length = n))

theorem tellingContract (s : Simulator σ) (actions : List (HostAction σ)) :
    TellingContract s actions := by
  have tells := s.tells_after actions
  refine ⟨tells.heard, fun i seen found => ?_, tells.numbered, tells.last,
    fun alive => (tells.stuck.1 alive).2, fun before rest split alive => ?_, fun i found => ?_,
    fun n steps => ?_⟩
  · rw [tells.heard i _ found, Observer.hear_recorder]
  · obtain ⟨later, log, report⟩ := log_step alive rest
    exact ⟨_, later, by rw [split, log_append, log], report, rfl⟩
  · refine ⟨_, ?_, Metrics.counts (s.log actions)⟩
    rw [tells.heard i _ found, Metrics.hear_metrics]
  · subst steps
    refine ⟨s.runTicks_eq n, fun off => ?_⟩
    obtain ⟨own, count⟩ := hostTicks_of_not_running off n
    refine ⟨?_, count⟩
    rw [runTicks_eq, own, dispatchedIn]

end Simulator

end BoardSim
