import BoardSim.Proofs.Bus.Routing
import BoardSim.Proofs.Simulator.Run

/-!
# Delivery of interrupts

No interrupt is lost and none is made up, over whole runs. `DeliveryContract` says it of one line
and one run; each of its clauses speaks of any place in the run's history. A tick requests what its
devices return and nothing else (`mem_requested_iff`).
-/

namespace BoardSim

def Entry.Asks (entry : Entry) (nanos : Nat) (line : UInt32) : Prop :=
  ((entry.device.advance nanos).2.irq = true ∧ entry.irq = some line) ∨
    line ∈ (entry.device.advance nanos).2.explicit

namespace Simulator

variable {σ : Type}

theorem mem_requested_iff (s : Simulator σ) (line : UInt32) :
    line ∈ s.requested ↔ ∃ entry ∈ s.bus.entries, entry.Asks s.config.tick line := by
  simp [requested_eq, Bus.mem_requestedLines, Entry.Asks]

structure DeliveryContract (s : Simulator σ) (moves : List (Move σ)) (line : UInt32) : Prop where
  accounted : (s.play moves).bus.controller = s.bus.controller.after (s.history moves) ∧
    (s.history moves).filterMap InterruptEvent.served? =
      (s.reports moves).flatMap TickReport.dispatched
  /-- A tick requests the line exactly if some device returns it, and then its handlers run. -/
  asked : ∀ first rest, moves = first ++ .tick :: rest → (s.play first).stuck = false →
    s.history moves = s.history first ++ (s.play first).requested.map .request ++
        (s.play first).tickEvents ++ (s.play (first ++ [.tick])).history rest ∧
      (line ∈ (s.play first).requested ↔
        ∃ entry ∈ (s.play first).bus.entries, entry.Asks (s.play first).config.tick line)
  set : ∀ a e b, s.history moves = a ++ e :: b →
    (s.bus.controller.after a).isPending line = false →
      (s.bus.controller.after (a ++ [e])).isPending line = true → e.requests line = true
  cleared : ∀ a e b, s.history moves = a ++ e :: b →
    (s.bus.controller.after a).isPending line = true →
      (s.bus.controller.after (a ++ [e])).isPending line = false →
        e = .dispatch line ∨ e.clears line = true
  genuine : ∀ a b, s.history moves = a ++ .dispatch line :: b →
    (s.bus.controller.after a).isEnabled line = true ∧
      (s.bus.controller.after a).isPending line = true
  separated : ∀ a b d, s.history moves = a ++ .dispatch line :: b ++ .dispatch line :: d →
    ∃ e ∈ b, e.requests line = true
  kept : ∀ a e b, s.history moves = a ++ e :: b → e.requests line = true →
    (∀ x ∈ b, x.clears line = false) →
      (s.play moves).bus.controller.isPending line = true ∨ .dispatch line ∈ b
  deferred : ∀ a e b, s.history moves = a ++ e :: b → e.requests line = true →
    (s.bus.controller.after a).isEnabled line = false →
      (∀ x ∈ b, x.enables line = false ∧ x.clears line = false) →
        (s.play moves).bus.controller.isPending line = true ∧ .dispatch line ∉ b
  /-- A tick of the run that finds the line enabled once its requests are latched dispatches it, if
  that has not happened since the request, unless a handler of that tick that runs before the
  line's turn disables it. -/
  prompt : ∀ first rest, moves = first ++ .tick :: rest → ∀ a e b,
    s.history first ++ (s.play first).requested.map .request = a ++ e :: b →
      e.requests line = true →
        (∀ x ∈ b ++ (s.play first).tickEvents, x.clears line = false) →
          (s.play first).updated.bus.controller.isEnabled line = true →
            (s.play first).runTick.2.stuck = false →
              .dispatch line ∈ b ∨ line ∈ (s.play first).runTick.1.dispatched ∨
                ∃ before after, (s.play first).ready = before ++ line :: after ∧
                  ∃ x ∈ (s.play first).updated.dispatchEvents ((s.play first).tick + 1) before,
                    x.disables line = true

/-- A request that nobody clears leaves its line pending until it is dispatched. -/
theorem isPending_or_dispatch_mem {c : InterruptController} {line : UInt32}
    {a b : List InterruptEvent} {e : InterruptEvent} (inRange : line < c.lineCount)
    (requested : e.requests line = true) (uncleared : ∀ x ∈ b, x.clears line = false) :
    (c.after (a ++ e :: b)).isPending line = true ∨ .dispatch line ∈ b := by
  refine Classical.or_iff_not_imp_right.2 fun undispatched => ?_
  have unserved (x : InterruptEvent) (hx : x ∈ b) : x.served? ≠ some line := fun served =>
    undispatched (InterruptEvent.served?_eq_some.1 served ▸ hx)
  rw [InterruptController.after_append, InterruptController.after_cons]
  have pending : ((c.after a).apply e).isPending line = true :=
    InterruptController.isPending_apply_of_requests (by simpa using inRange) requested
  exact InterruptController.isPending_after (by simpa using inRange) pending uncleared unserved

/-- A line that starts disabled is not dispatched before something enables it. -/
theorem dispatch_not_mem_of_disabled {c : InterruptController} {line : UInt32}
    {events : List InterruptEvent} (inRange : line < c.lineCount) (admits : c.Admits events)
    (disabled : c.isEnabled line = false) (quiet : ∀ x ∈ events, x.enables line = false) :
    .dispatch line ∉ events := by
  intro mem
  obtain ⟨a, b, rfl⟩ := List.append_of_mem mem
  have still : (c.after a).isEnabled line = false :=
    InterruptController.not_isEnabled_after inRange disabled fun x hx =>
      quiet x (List.mem_append_left _ hx)
  have ready := (InterruptController.admits_append.1 admits).2.1 line rfl
  rw [InterruptController.isReady_eq_true, still] at ready
  cases ready.1

theorem dispatched_or_disabled {s : Simulator σ} {line : UInt32}
    (enabled : s.updated.bus.controller.isEnabled line = true)
    (pending : s.updated.bus.controller.isPending line = true)
    (uncleared : ∀ x ∈ s.tickEvents, x.clears line = false) (ended : s.runTick.2.stuck = false) :
    line ∈ s.runTick.1.dispatched ∨ ∃ before after, s.ready = before ++ line :: after ∧
      ∃ x ∈ s.updated.dispatchEvents (s.tick + 1) before, x.disables line = true := by
  refine Classical.or_iff_not_imp_left.2 fun omitted => ?_
  have candidate : line ∈ s.ready :=
    InterruptController.mem_readyLines.2 (InterruptController.isReady_eq_true.2 ⟨enabled, pending⟩)
  obtain ⟨before, after, split⟩ := List.append_of_mem candidate
  obtain ⟨x, hx, cause⟩ := cause_of_omitted split omitted (stuck_turn_of_ended ended split)
  have ofTick : x ∈ s.tickEvents := by
    rw [tickEvents, split, dispatchEvents_append]
    exact List.mem_append_left _ hx
  exact ⟨before, after, split, x, hx, cause.resolve_right (by simp [uncleared x ofTick])⟩

theorem play_deliveryContract (s : Simulator σ) (moves : List (Move σ)) (line : UInt32)
    (inRange : line < s.lineCount) : DeliveryContract s moves line where
  accounted := ⟨s.controller_play moves, s.served_history moves⟩
  asked first rest split alive := by
    refine ⟨?_, (s.play first).mem_requested_iff line⟩
    rw [split, List.append_cons, history_append, history_concat_tick alive]
  set a e b h before after := by
    rw [InterruptController.after_append] at after
    exact InterruptController.requests_of_rise (by simpa [lineCount] using inRange) before after
  cleared a e b h before after := by
    rw [InterruptController.after_append] at after
    rw [← InterruptEvent.served?_eq_some]
    exact InterruptController.served_or_clears_of_fall (by simpa [lineCount] using inRange) before
      after
  genuine a b h := by
    have admits := s.admits_history moves
    rw [h, InterruptController.admits_append] at admits
    exact InterruptController.isReady_eq_true.1 (admits.2.1 line rfl)
  separated a b d h :=
    InterruptController.exists_request_between inRange (h ▸ s.admits_history moves)
  kept a e b h requested uncleared := by
    rw [controller_play, h]
    exact isPending_or_dispatch_mem inRange requested uncleared
  deferred a e b h requested disabled quiet := by
    have undispatched : .dispatch line ∉ b := by
      have admits := s.admits_history moves
      rw [h, InterruptController.admits_append] at admits
      refine fun mem => dispatch_not_mem_of_disabled (by simpa [lineCount] using inRange) admits.2
        disabled (fun x hx => ?_) (List.mem_cons_of_mem e mem)
      rcases List.mem_cons.1 hx with rfl | hx
      · exact InterruptEvent.enables_of_requests requested
      · exact (quiet x hx).1
    rw [controller_play, h]
    refine ⟨Or.resolve_right ?_ undispatched, undispatched⟩
    exact isPending_or_dispatch_mem inRange requested fun x hx => (quiet x hx).2
  prompt first rest h a e b split requested uncleared enabled ended := by
    have updated : (s.play first).updated.bus.controller =
        s.bus.controller.after (a ++ e :: b) := by
      rw [controller_updated, controller_play, ← InterruptController.after_append, split]
    have waiting := isPending_or_dispatch_mem (a := a) inRange requested fun x hx =>
      uncleared x (List.mem_append_left _ hx)
    rw [← updated] at waiting
    rcases waiting with pending | dispatched
    · exact .inr (dispatched_or_disabled enabled pending
        (fun x hx => uncleared x (List.mem_append_right _ hx)) ended)
    · exact .inl dispatched

def oneBank : Simulator Unit := .new { irqLines := 32 } ()

/-- A device whose every step asks for line 7. -/
def bell : Entry where
  name := "bell"
  base := 0
  size := 0x1000
  irq := some 7
  device := .scratch { layout := [], result := { irq := true } }

def belfry : Simulator Unit := { oneBank with bus := oneBank.bus.attempt bell }

/-- Line 7 is disabled in the first tick, which it outlasts. -/
def lateEnable : List (Move Unit) := [.tick, .call (.setEnabled 7 true), .tick, .tick]

theorem play_deliveryContract_lateEnable :
    7 < belfry.lineCount ∧ belfry.bus.entries = #[bell] ∧ bell.Asks belfry.config.tick 7 ∧
      (belfry.reports lateEnable).map TickReport.dispatched = [[], [7], [7]] ∧
      DeliveryContract belfry lateEnable 7 :=
  ⟨by decide, rfl, .inl ⟨rfl, rfl⟩, by decide +kernel,
    play_deliveryContract _ _ _ (by decide)⟩

end Simulator

end BoardSim
