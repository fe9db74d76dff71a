import BoardSim.Proofs.Simulator.Delivery
import BoardSim.Proofs.Simulator.Frame
import BoardSim.Proofs.Simulator.Interplay

/-!
# No wake-up is lost

Wake-ups share one slot, and one that finds the slot full is dropped. It is not missed: as long as
a line that was requested while enabled is pending, its request is still on its way, the slot holds
a signal, or the round in progress will come to the line (`Coming`). So a loop that waits with
nothing on its way has dispatched every such line since its last request (`WakeContract`).
-/

namespace BoardSim

variable {σ : Type}

-- ---------------------------------------------------------------------------
-- Handlers that leave the controller alone
-- ---------------------------------------------------------------------------

/-- A program that does nothing to the controller posts no signal either. -/
theorem Isr.signal_run {α : Type} {s : Simulator σ} {p : Isr σ α} (quiet : p.events s = []) :
    (p.run s).2.signal = s.signal := by
  induction p generalizing s with
  | done a => rfl
  | call c next ih =>
    obtain ⟨here, later⟩ := List.append_eq_nil_iff.1 quiet
    refine (ih _ later).trans ?_
    cases c with
    | request line wake => cases here
    | _ => rfl
  | hang => rfl

namespace Simulator

def HandlersQuiet (s : Simulator σ) : Prop :=
  ∀ line handler, s.handler? line = some handler →
    ∀ (t : Simulator σ) (tick : UInt64), (handler line tick).events t = []

theorem handlersQuiet_new (config : SimConfig) (memory : σ) :
    (new config memory).HandlersQuiet := by
  intro line handler found
  rw [handler?_new] at found
  cases found

variable {s t : Simulator σ}

theorem HandlersQuiet.of_handlers (quiet : s.HandlersQuiet) (same : t.handlers = s.handlers) :
    t.HandlersQuiet := by
  intro line handler found
  rw [handler?_congr same] at found
  exact quiet line handler found

theorem HandlersQuiet.handlerEvents (quiet : s.HandlersQuiet) (line : UInt32) (tick : UInt64) :
    s.handlerEvents line tick = [] := by
  unfold Simulator.handlerEvents
  split
  · next handler found => exact quiet line handler found s tick
  · rfl

theorem HandlersQuiet.signal_runHandler (quiet : s.HandlersQuiet) (line : UInt32)
    (tick : UInt64) : (s.runHandler line tick).signal = s.signal := by
  cases found : s.handler? line with
  | none => rw [runHandler_of_none found]
  | some handler =>
    have same := Isr.signal_run (quiet line handler found s tick)
    rw [runHandler_of_some found]
    split <;> exact same

theorem signal_endTick (s : Simulator σ) (tick : UInt64) (served : Nat) :
    (s.endTick tick served).signal = s.signal := by
  unfold endTick
  split <;> rfl

theorem signal_post (s : Simulator σ) (signal : Signal) : (s.post signal).signal ≠ none := by
  unfold post
  cases s.signal <;> simp

end Simulator

theorem InterruptController.lt_lineCount_of_isEnabled {c : InterruptController} {line : UInt32}
    (h : c.isEnabled line = true) : line < c.lineCount := by
  rw [← bankOf_lt_banks]
  refine Nat.lt_of_not_le fun out => ?_
  rw [isEnabled, c.enabled.has_of_le out] at h
  cases h

theorem LineSet.selects_bankOf {banks : Nat} (set : LineSet banks) (line : UInt32) :
    selects (bankOf line) (set.bank (bankOf line)) line = set.has line := by
  rw [selects, has, beq_self_eq_true, Bool.true_and]

-- ---------------------------------------------------------------------------
-- What a step does
-- ---------------------------------------------------------------------------

namespace Interplay

variable {s : Simulator σ} {c d : Interplay σ} {h events : List InterruptEvent}

theorem Step.controller (step : Step c events d) :
    d.sim.bus.controller = c.sim.bus.controller.after events := by
  cases step with
  | advance => exact c.sim.controller_updated
  | handle => exact Simulator.controller_runHandler ..
  | finish => exact Simulator.controller_endTick ..
  | elsewhere _ same => exact same
  | _ => rfl

theorem Step.handlers (step : Step c events d) : d.sim.handlers = c.sim.handlers := by
  cases step with
  | advance => exact c.sim.sameTables_updated.handlers
  | handle => exact (Simulator.sameTables_runHandler ..).handlers
  | finish => exact Simulator.handlers_endTick ..
  | elsewhere tables => exact tables.handlers
  | _ => rfl

/-- No step disables a line or clears its pending bit without serving it. -/
theorem Step.keeps (quiet : c.sim.HandlersQuiet) (step : Step c events d) (line : UInt32) :
    ∀ e ∈ events, e.disables line = false ∧ e.clears line = false := by
  intro e he
  cases step with
  | handle =>
    rw [quiet.handlerEvents] at he
    cases he
  | advance =>
    obtain ⟨other, -, rfl⟩ := List.mem_map.1 he
    exact ⟨rfl, rfl⟩
  | latch | take | enable =>
    rw [List.mem_singleton.1 he]
    exact ⟨rfl, rfl⟩
  | _ => cases he

theorem Step.isEnabled (quiet : c.sim.HandlersQuiet) (step : Step c events d) {line : UInt32}
    (enabled : c.sim.bus.controller.isEnabled line = true) :
    d.sim.bus.controller.isEnabled line = true := by
  rw [step.controller]
  exact InterruptController.isEnabled_after
    (InterruptController.lt_lineCount_of_isEnabled enabled) enabled
    fun e he => (step.keeps quiet line e he).1

-- ---------------------------------------------------------------------------
-- The invariant
-- ---------------------------------------------------------------------------

def FoundEnabled (c : Interplay σ) (line : UInt32) : Prop :=
  .granted line ∈ c.calls ∨ .returned line true ∈ c.calls ∨
    ∃ rest served, c.phase = .acknowledging line rest served

/-- The line has been requested while enabled, or a request has found it enabled. -/
def Due (s : Simulator σ) (h : List InterruptEvent) (calls : List RequestCall) (line : UInt32) :
    Prop :=
  (∃ a b, h = a ++ .request line :: b ∧ (s.bus.controller.after a).isEnabled line = true) ∨
    .returned line true ∈ calls

end Interplay

/-- A round that is here comes to `line` if it is enabled and pending, or never ends. -/
def LoopPhase.Covers (line : UInt32) : LoopPhase → Prop
  | blocked => False
  | woken | hung => True
  | scanning bank found => bank ≤ LineSet.bankOf line ∨ line ∈ found
  | reading bank enabled found =>
    bank < LineSet.bankOf line ∨ LineSet.selects bank enabled line = true ∨ line ∈ found
  | dispatching rest _ => line ∈ rest
  | acknowledging other rest _ => line = other ∨ line ∈ rest
  | serving _ rest _ => line ∈ rest

namespace Interplay

variable {s : Simulator σ} {c d : Interplay σ} {h events : List InterruptEvent}

/-- What keeps a pending line from being forgotten. -/
inductive Coming (c : Interplay σ) (line : UInt32) : Prop where
  | call (call : RequestCall) (mem : call ∈ c.calls) (own : call.line = line)
      (going : call.inFlight = true)
  | signal (full : c.sim.signal ≠ none)
  | round (covered : c.phase.Covers line)

structure Sound (s : Simulator σ) (h : List InterruptEvent) (c : Interplay σ) : Prop where
  quiet : c.sim.HandlersQuiet
  accounted : c.sim.bus.controller = s.bus.controller.after h
  kept : ∀ line, ∀ e ∈ h, e.disables line = false ∧ e.clears line = false
  found : ∀ line, c.FoundEnabled line → c.sim.bus.controller.isEnabled line = true
  genuine : s.bus.controller.Admits h
  coming : ∀ line, Due s h c.calls line → c.sim.bus.controller.isPending line = true →
    c.Coming line

theorem Sound.start (quiet : s.HandlersQuiet) : Sound s [] ⟨s, .blocked, []⟩ where
  quiet
  accounted := rfl
  kept := by simp
  found := by simp [FoundEnabled]
  genuine := trivial
  coming := by simp [Due]

/-- A line is due since before a step unless the step requests it. -/
theorem Due.of_append {calls : List RequestCall} {line : UInt32}
    (due : Due s (h ++ events) calls line) :
    Due s h calls line ∨ .request line ∈ events := by
  obtain ⟨a, b, split, enabled⟩ | answered := due
  · obtain ⟨t, -, rfl⟩ | ⟨t, rfl, cut⟩ := List.append_eq_append_iff.1 split
    · exact .inr (by simp)
    · cases t with
      | nil =>
        rw [List.nil_append] at cut
        exact .inr (cut ▸ List.mem_cons_self)
      | cons e t =>
        obtain ⟨rfl, -⟩ := List.cons.inj cut
        exact .inl (.inl ⟨a, t, rfl, enabled⟩)
  · exact .inl (.inr answered)

theorem Sound.isEnabled_of_due (sound : Sound s h c) {line : UInt32}
    (due : Due s h c.calls line) : c.sim.bus.controller.isEnabled line = true := by
  obtain ⟨a, b, rfl, enabled⟩ | answered := due
  · rw [sound.accounted, InterruptController.after_append]
    exact InterruptController.isEnabled_after
      (InterruptController.lt_lineCount_of_isEnabled enabled) enabled
      fun e he => (sound.kept line e (List.mem_append_right _ he)).1
  · exact sound.found line (.inr (.inl answered))

-- ---------------------------------------------------------------------------
-- One step
-- ---------------------------------------------------------------------------

theorem FoundEnabled.of_step (step : Step c events d) {line : UInt32}
    (found : d.FoundEnabled line) :
    c.FoundEnabled line ∨ c.sim.bus.controller.isEnabled line = true := by
  cases step with
  | latch other => exact .inl (by simpa [FoundEnabled] using found)
  | @look before after other calls =>
    cases enabled : c.sim.bus.controller.isEnabled other with
    | false => exact .inl (by simpa [FoundEnabled, enabled, calls] using found)
    | true =>
      by_cases own : line = other
      · exact .inr (own ▸ enabled)
      · exact .inl (by simpa [FoundEnabled, enabled, calls, own] using found)
  | @wake before after other calls =>
    by_cases own : line = other
    · exact .inl (.inl (by simp [calls, own]))
    · exact .inl (by simpa [FoundEnabled, calls, own] using found)
  | @check other rest served here =>
    cases enabled : c.sim.bus.controller.isEnabled other with
    | false => exact .inl (by simpa [FoundEnabled, enabled, here] using found)
    | true =>
      by_cases own : line = other
      · exact .inr (own ▸ enabled)
      · exact .inl (by simpa [FoundEnabled, enabled, here, Ne.symm own] using found)
  | enable | elsewhere => exact .inl found
  | handle =>
    refine .inl (found.imp_right (Or.imp_right ?_))
    rintro ⟨rest, served, checking⟩
    simp only [resumed] at checking
    split at checking <;> cases checking
  | receive | advance | readEnabled | readPending | scanned | take | pass | finish =>
    refine .inl (found.imp_right (Or.imp_right ?_))
    rintro ⟨rest, served, checking⟩
    cases checking

/-- A dispatch takes the pending bit of a line that has been found enabled. -/
theorem Sound.admits_step (sound : Sound s h c) (step : Step c events d) :
    c.sim.bus.controller.Admits events := by
  cases step with
  | @take line rest served here pending =>
    have enabled := sound.found line (.inr (.inr ⟨rest, served, here⟩))
    refine ⟨fun other served => ?_, trivial⟩
    cases served
    exact InterruptController.isReady_eq_true.2 ⟨enabled, pending⟩
  | advance =>
    refine InterruptController.admits_of_forall_served? fun e he => ?_
    obtain ⟨line, -, rfl⟩ := List.mem_map.1 he
    rfl
  | handle =>
    exact InterruptController.admits_of_forall_served? fun e he =>
      Simulator.served?_of_mem_handlerEvents he
  | latch | enable => exact ⟨fun _ served => (by cases served), trivial⟩
  | _ => trivial

/-- A step that leaves the calls in flight and the signal alone and does not make the round pass
the line over keeps a line coming. -/
theorem Coming.of_step {line : UInt32} (coming : c.Coming line)
    (calls : ∀ call ∈ c.calls, call.inFlight = true → call ∈ d.calls)
    (signal : d.sim.signal = c.sim.signal)
    (covers : c.phase.Covers line → d.phase.Covers line) : d.Coming line := by
  cases coming with
  | call call mem own going => exact .call call (calls call mem going) own going
  | signal full => exact .signal (signal ▸ full)
  | round covered => exact .round (covers covered)

/-- A line whose enable bit has been read is found if it is pending when its bank is. -/
theorem mem_bankLines {c : InterruptController} {bank : Nat} {enabled line : UInt32}
    (selected : LineSet.selects bank enabled line = true) (pending : c.isPending line = true) :
    line ∈ bankLines bank (enabled &&& c.pending.bank bank) := by
  rw [LineSet.selects, Bool.and_eq_true, beq_iff_eq, LineSet.and_bitOf] at selected
  obtain ⟨rfl, one⟩ := selected
  rw [InterruptController.isPending, LineSet.has, LineSet.and_bitOf] at pending
  refine List.mem_map.2 ⟨line.toNat % 32, LineSet.mem_places.2 ?_, ?_⟩
  · rw [UInt32.toNat_and, Nat.testBit_and]
    exact Bool.and_eq_true_iff.2 ⟨one, pending⟩
  · rw [InterruptController.lineAt, InterruptController.bankOf_eq, InterruptController.linesPerBank,
      Nat.div_add_mod', UInt32.ofNat_toNat]

/-- A line that a step neither requests nor answers for was coming before the step. -/
theorem Sound.coming_before (sound : Sound s h c) {line : UInt32}
    (due : Due s (h ++ events) c.calls line) (unasked : .request line ∉ events)
    (pending : c.sim.bus.controller.isPending line = true) : c.Coming line :=
  sound.coming line (due.of_append.resolve_right unasked) pending

theorem Sound.coming_latch (sound : Sound s h c) (other : UInt32) {line : UInt32}
    (due : Due s (h ++ [.request other]) (.latched other :: c.calls) line)
    (pending : (c.sim.latch other).bus.controller.isPending line = true) :
    Coming { c with sim := c.sim.latch other, calls := .latched other :: c.calls } line := by
  by_cases own : line = other
  · exact .call (.latched other) List.mem_cons_self own.symm rfl
  · have earlier : Due s (h ++ [.request other]) c.calls line := by simpa [Due] using due
    have waiting : c.sim.bus.controller.isPending line = true := by
      simpa [Simulator.latch, InterruptController.isPending_latch, own] using pending
    exact (sound.coming_before earlier (by simp [own]) waiting).of_step
      (fun call mem _ => List.mem_cons_of_mem _ mem) rfl id

/-- A call that ends because its line is disabled has requested nothing that is due. -/
theorem Sound.coming_look (sound : Sound s h c) {before after : List RequestCall}
    {other line : UInt32} (calls : c.calls = before ++ .latched other :: after)
    (due : Due s h (before ++
      (if c.sim.bus.controller.isEnabled other then .granted other else .returned other false) ::
        after) line)
    (pending : c.sim.bus.controller.isPending line = true) :
    Coming { c with
      calls := before ++
        (if c.sim.bus.controller.isEnabled other then .granted other else .returned other false) ::
          after } line := by
  have earlier : Due s h c.calls line := by
    refine due.imp_right fun answered => ?_
    split at answered <;> simpa [calls] using answered
  have enabled := sound.isEnabled_of_due earlier
  cases sound.coming line earlier pending with
  | call call mem own going =>
    rw [calls, List.mem_append, List.mem_cons] at mem
    rcases mem with mem | rfl | mem
    · exact .call call (List.mem_append_left _ mem) own going
    · obtain rfl : other = line := own
      exact .call (.granted other) (by simp [enabled]) rfl rfl
    · exact .call call (List.mem_append_right _ (List.mem_cons_of_mem _ mem)) own going
  | signal full => exact .signal full
  | round covered => exact .round covered

/-- A step in which nothing but the loop gets on. -/
theorem Sound.coming_loop (sound : Sound s h c) {line : UInt32} {phase : LoopPhase}
    (due : Due s (h ++ []) c.calls line) (pending : c.sim.bus.controller.isPending line = true)
    (covers : c.phase.Covers line → phase.Covers line) : Coming { c with phase } line :=
  (sound.coming_before due List.not_mem_nil pending).of_step (fun _ mem _ => mem) rfl covers

theorem Sound.coming_step (sound : Sound s h c) (step : Step c events d) {line : UInt32}
    (due : Due s (h ++ events) d.calls line)
    (pending : d.sim.bus.controller.isPending line = true) : d.Coming line := by
  have all (call : RequestCall) (mem : call ∈ c.calls) (_ : call.inFlight = true) :
    call ∈ c.calls := mem
  cases step with
  | latch other => exact sound.coming_latch other due pending
  | look before calls => exact sound.coming_look calls (by rwa [List.append_nil] at due) pending
  | wake => exact .signal (c.sim.signal_post .wake)
  | receive => exact .round trivial
  | advance => exact .round (.inl (Nat.zero_le _))
  | @readEnabled bank found here inside =>
    have enabled := sound.isEnabled_of_due (due.of_append.resolve_right List.not_mem_nil)
    refine sound.coming_loop due pending fun covered => ?_
    rw [here] at covered
    rcases covered with ahead | mem
    · rcases Nat.eq_or_lt_of_le ahead with rfl | ahead
      · exact .inr (.inl ((LineSet.selects_bankOf _ line).trans enabled))
      · exact .inl ahead
    · exact .inr (.inr mem)
  | @readPending bank enabled found here =>
    refine sound.coming_loop due pending fun covered => ?_
    rw [here] at covered
    rcases covered with ahead | selected | mem
    · exact .inl ahead
    · exact .inr (List.mem_append_right _ (mem_bankLines selected pending))
    · exact .inr (List.mem_append_left _ mem)
  | @scanned bank found here past =>
    refine sound.coming_loop due pending fun covered => ?_
    rw [here] at covered
    rcases covered with ahead | mem
    · have none := c.sim.bus.controller.pending.has_of_le (Nat.le_trans past ahead)
      rw [InterruptController.isPending, none] at pending
      cases pending
    · exact mem
  | @check other rest served here =>
    have enabled := sound.isEnabled_of_due (due.of_append.resolve_right List.not_mem_nil)
    refine sound.coming_loop due pending fun covered => ?_
    rw [here] at covered
    rcases List.mem_cons.1 covered with rfl | mem
    · rw [if_pos enabled]
      exact .inl rfl
    · split
      · exact .inr mem
      · exact mem
  | @take other rest served here ready =>
    have kept : (c.sim.bus.controller.clearPending other).isPending line = true := pending
    rw [InterruptController.isPending_clearPending, Bool.and_eq_true, decide_eq_true_iff] at kept
    refine (sound.coming_before due (by simp) kept.1).of_step all rfl fun covered => ?_
    rw [here] at covered
    exact covered.resolve_left kept.2
  | @pass other rest served here idle =>
    refine sound.coming_loop due pending fun covered => ?_
    rw [here] at covered
    rcases covered with rfl | mem
    · rw [idle] at pending
      cases pending
    · exact mem
  | @handle other rest served here =>
    have quiet := sound.quiet.handlerEvents other (c.sim.tick + 1)
    rw [quiet] at due
    rw [Simulator.controller_runHandler, quiet] at pending
    refine (sound.coming_before due List.not_mem_nil pending).of_step all
      (sound.quiet.signal_runHandler ..) fun covered => ?_
    rw [here] at covered
    simp only [resumed]
    split
    · trivial
    · exact covered
  | @finish served here =>
    rw [Simulator.controller_endTick] at pending
    refine (sound.coming_before due List.not_mem_nil pending).of_step all
      (Simulator.signal_endTick ..) fun covered => ?_
    rw [here] at covered
    cases covered
  | enable other =>
    exact (sound.coming_before due (by simp) pending).of_step all rfl id
  | elsewhere tables same signal =>
    rw [same] at pending
    exact (sound.coming_before due List.not_mem_nil pending).of_step all signal id

theorem Sound.step (sound : Sound s h c) (step : Step c events d) : Sound s (h ++ events) d where
  quiet := sound.quiet.of_handlers step.handlers
  accounted := by
    rw [step.controller, sound.accounted, InterruptController.after_append]
  kept line e he := by
    rcases List.mem_append.1 he with old | new
    · exact sound.kept line e old
    · exact step.keeps sound.quiet line e new
  found line found := by
    rcases found.of_step step with earlier | enabled
    · exact step.isEnabled sound.quiet (sound.found line earlier)
    · exact step.isEnabled sound.quiet enabled
  genuine := by
    rw [InterruptController.admits_append, ← sound.accounted]
    exact ⟨sound.genuine, sound.admits_step step⟩
  coming line due pending := sound.coming_step step due pending

theorem Sound.run (quiet : s.HandlersQuiet) (run : Run ⟨s, .blocked, []⟩ h c) : Sound s h c := by
  induction run with
  | nil => exact .start quiet
  | snoc _ step ih => exact ih.step step

-- ---------------------------------------------------------------------------
-- The contract
-- ---------------------------------------------------------------------------

structure Idle (c : Interplay σ) : Prop where
  phase : c.phase = .blocked
  signal : c.sim.signal = none
  calls : ∀ call ∈ c.calls, call.inFlight = false

structure WakeContract (s : Simulator σ) (h : List InterruptEvent) (c : Interplay σ) : Prop where
  accounted : c.sim.bus.controller = s.bus.controller.after h
  genuine : s.bus.controller.Admits h
  /-- A line that was requested while enabled is still on its way as long as it is pending. -/
  coming : ∀ line, Due s h c.calls line → c.sim.bus.controller.isPending line = true →
    c.Coming line
  served : c.Idle → ∀ line, Due s h c.calls line → c.sim.bus.controller.isPending line = false
  covered : c.Idle → ∀ a line b, h = a ++ .request line :: b →
    (s.bus.controller.after a).isEnabled line = true ∨ .returned line true ∈ c.calls →
      .dispatch line ∈ b

theorem Idle.not_coming (idle : c.Idle) (line : UInt32) : ¬c.Coming line := by
  intro coming
  cases coming with
  | call call mem _ going =>
    rw [idle.calls call mem] at going
    cases going
  | signal full => exact full idle.signal
  | round covered =>
    rw [idle.phase] at covered
    exact covered

theorem Sound.isPending_of_idle (sound : Sound s h c) (idle : c.Idle) {line : UInt32}
    (due : Due s h c.calls line) : c.sim.bus.controller.isPending line = false :=
  Bool.eq_false_iff.2 fun pending => idle.not_coming line (sound.coming line due pending)

theorem Run.wakeContract (quiet : s.HandlersQuiet) (run : Run ⟨s, .blocked, []⟩ h c) :
    WakeContract s h c := by
  have sound := Sound.run quiet run
  refine ⟨sound.accounted, sound.genuine, sound.coming,
    fun idle line due => sound.isPending_of_idle idle due, fun idle a line b split asked => ?_⟩
  have due : Due s h c.calls line := asked.imp_left fun enabled => ⟨a, b, split, enabled⟩
  have inRange : line < s.bus.controller.lineCount := by
    have := InterruptController.lt_lineCount_of_isEnabled (sound.isEnabled_of_due due)
    rwa [sound.accounted, InterruptController.lineCount_after] at this
  subst split
  have uncleared (e : InterruptEvent) (he : e ∈ b) : e.clears line = false :=
    (sound.kept line e (by simp [he])).2
  refine (Simulator.isPending_or_dispatch_mem (a := a) inRange (e := .request line)
    (by simp [InterruptEvent.requests]) uncleared).resolve_left ?_
  rw [← sound.accounted, sound.isPending_of_idle idle due]
  decide

def bothRaised : Simulator Unit :=
  ((((Simulator.oneBank.setEnabled 3 true).setEnabled 5 true).raise 3 true).2.raise 5 true).2

/-- Both requests share one wake-up: the second finds the slot full. -/
def bothServed : Interplay Unit :=
  ⟨bothRaised.received.runTick.2, .blocked, [.returned 5 true, .returned 3 true]⟩

def bothEvents : List InterruptEvent :=
  [.setEnabled 3 true, .setEnabled 5 true, .request 3, .request 5, .dispatch 3, .dispatch 5]

theorem run_bothServed : Run ⟨Simulator.oneBank, .blocked, []⟩ bothEvents bothServed := by
  have enabled : Run ⟨Simulator.oneBank, .blocked, []⟩ _ _ :=
    (Run.single (.enable 3)).snoc (.enable 5)
  have round := Run.round (s := bothRaised) [.returned 5 true, .returned 3 true]
    (by decide +kernel) (by decide +kernel) (by decide +kernel)
  have events : bothRaised.received.requested.map .request ++ bothRaised.received.tickEvents =
      [.dispatch 3, .dispatch 5] := by decide +kernel
  rw [events] at round
  exact ((enabled.trans (.call _ 3)).trans (.call _ 5)).trans round

theorem wakeContract_coalesced :
    Simulator.oneBank.HandlersQuiet ∧ Run ⟨Simulator.oneBank, .blocked, []⟩ bothEvents bothServed ∧
      bothServed.Idle ∧ WakeContract Simulator.oneBank bothEvents bothServed := by
  have quiet : Simulator.oneBank.HandlersQuiet := Simulator.handlersQuiet_new _ _
  refine ⟨quiet, run_bothServed, ⟨rfl, by decide +kernel, by decide⟩, ?_⟩
  exact Run.wakeContract quiet run_bothServed

end Interplay

end BoardSim
