import BoardSim.Proofs.Simulator.Dispatch

/-!
# One tick

A tick moves the devices, latches what they ask for and dispatches the lines that are ready then.
`runTick_dispatchContract` says which lines are dispatched, why a ready line is left out, and what
becomes of the lines that handlers ask for meanwhile.
-/

namespace BoardSim.Simulator

variable {σ : Type}

-- ---------------------------------------------------------------------------
-- The start of a tick
-- ---------------------------------------------------------------------------

theorem foldl_notify {β : Type} (f : β → Notification) (l : List β) (s : Simulator σ) :
    ∃ observers, l.foldl (fun s x => s.notify (f x)) s = { s with observers } := by
  induction l generalizing s with
  | nil => exact ⟨s.observers, rfl⟩
  | cons x rest ih => exact ih (s.notify (f x))

def updated (s : Simulator σ) : Simulator σ :=
  ((s.notify (.tickStarted (s.tick + 1))).updateDevices).2

def requested (s : Simulator σ) : List UInt32 :=
  ((s.notify (.tickStarted (s.tick + 1))).updateDevices).1

theorem requested_eq (s : Simulator σ) :
    s.requested = s.bus.entries.toList.flatMap fun e =>
      Bus.requestedLines e.irq (e.device.advance s.config.tick).2 := by
  simp [requested, updateDevices, notify, Bus.advanceDevices, Bus.advanceEntry, List.flatMap_map]

theorem updated_eq (s : Simulator σ) :
    ∃ observers, s.updated =
      { s with observers, bus := (s.bus.advanceDevices s.config.tick).2.latchAll s.requested } := by
  obtain ⟨observers, told⟩ := foldl_notify (σ := σ)
    (fun x : String × Option UInt32 × TickResult => .deviceUpdated x.1 x.2.2)
    (s.bus.advanceDevices s.config.tick).1
    { s.notify (.tickStarted (s.tick + 1)) with bus := (s.bus.advanceDevices s.config.tick).2 }
  exact ⟨observers,
    congrArg (fun t : Simulator σ => { t with bus := t.bus.latchAll s.requested }) told⟩

theorem sameTables_updated (s : Simulator σ) : s.SameTables s.updated := by
  obtain ⟨_, h⟩ := s.updated_eq
  rw [h]
  exact ⟨rfl, rfl⟩

theorem entries_updated (s : Simulator σ) :
    s.updated.bus.entries = s.bus.entries.map fun e => (Bus.advanceEntry s.config.tick e).1 := by
  obtain ⟨_, h⟩ := s.updated_eq
  rw [h]
  simp [Bus.latchAll, Bus.advanceDevices]

/-- Moving the devices does nothing to the controller but to latch what they ask for. -/
theorem controller_updated (s : Simulator σ) :
    s.updated.bus.controller = s.bus.controller.after (s.requested.map .request) := by
  obtain ⟨_, h⟩ := s.updated_eq
  rw [h, InterruptController.after, List.foldl_map]
  rfl

def ready (s : Simulator σ) : List UInt32 := s.updated.bus.controller.readyLines

theorem nodup_ready (s : Simulator σ) : s.ready.Nodup :=
  (InterruptController.pairwise_readyLines _).imp UInt32.ne_of_lt

/-- The state in which the tick comes to a line, `before` being the ready lines ahead of it. -/
def turn (s : Simulator σ) (before : List UInt32) : Simulator σ :=
  (s.updated.dispatchLines (s.tick + 1) before).2

def tickEvents (s : Simulator σ) : List InterruptEvent :=
  s.updated.dispatchEvents (s.tick + 1) s.ready

theorem fst_runTick (s : Simulator σ) :
    s.runTick.1 =
      ⟨s.tick + 1, s.requested, (s.updated.dispatchLines (s.tick + 1) s.ready).1⟩ := rfl

theorem snd_runTick (s : Simulator σ) :
    s.runTick.2 = (s.turn s.ready).endTick (s.tick + 1) s.runTick.1.dispatched.length := rfl

theorem controller_endTick (s : Simulator σ) (tick : UInt64) (served : Nat) :
    (s.endTick tick served).bus.controller = s.bus.controller := by
  unfold endTick
  split <;> rfl

theorem handlers_endTick (s : Simulator σ) (tick : UInt64) (served : Nat) :
    (s.endTick tick served).handlers = s.handlers := by
  unfold endTick
  split <;> rfl

theorem stuck_endTick (s : Simulator σ) (tick : UInt64) (served : Nat) :
    (s.endTick tick served).stuck = s.stuck := by
  unfold endTick
  split <;> rfl

-- ---------------------------------------------------------------------------
-- A line's turn
-- ---------------------------------------------------------------------------

section
variable {s : Simulator σ} {before after : List UInt32} {line : UInt32} {tick : UInt64}

/-- A line listed once is dispatched exactly if it is ready at its turn. -/
theorem mem_dispatchLines_iff (nodup : (before ++ line :: after).Nodup) :
    line ∈ (s.dispatchLines tick (before ++ line :: after)).1 ↔
      (s.dispatchLines tick before).2.stuck = false ∧
        (s.dispatchLines tick before).2.bus.controller.isReady line = true := by
  obtain ⟨-, rest, apart⟩ := List.nodup_append.1 nodup
  have earlier : line ∉ (s.dispatchLines tick before).1 := fun h =>
    apart line ((sublist_dispatchLines ..).subset h) line List.mem_cons_self rfl
  rw [dispatchLines_append, List.mem_append, or_iff_right earlier]
  generalize (s.dispatchLines tick before).2 = t
  have later (t : Simulator σ) : line ∉ (t.dispatchLines tick after).1 := fun h =>
    (List.nodup_cons.1 rest).1 ((sublist_dispatchLines ..).subset h)
  cases h : t.stuck with
  | true => simp [dispatchLines_of_stuck h]
  | false =>
    cases r : t.bus.controller.isReady line with
    | true => simp [dispatchLines_serve h r]
    | false => simp [dispatchLines_skip r, later]

/-- Between the start of the dispatch and a line's turn only handlers can make it unready. -/
theorem exists_disables_or_clears (nodup : (before ++ line :: after).Nodup)
    (ready : s.bus.controller.isReady line = true)
    (unready : (s.dispatchLines tick before).2.bus.controller.isReady line = false) :
    ∃ e ∈ s.dispatchEvents tick before, e.disables line = true ∨ e.clears line = true := by
  refine Classical.byContradiction fun none => ?_
  have quiet (e : InterruptEvent) (he : e ∈ s.dispatchEvents tick before) :
      e.disables line = false ∧ e.clears line = false := by
    simpa using fun h => none ⟨e, he, h⟩
  have unserved (e : InterruptEvent) (he : e ∈ s.dispatchEvents tick before) :
      e.served? ≠ some line := by
    intro served
    have mem : line ∈ (s.dispatchEvents tick before).filterMap InterruptEvent.served? :=
      List.mem_filterMap.2 ⟨e, he, served⟩
    rw [filterMap_served?_dispatchEvents] at mem
    exact (List.nodup_append.1 nodup).2.2 line ((sublist_dispatchLines ..).subset mem) line
      List.mem_cons_self rfl
  have inRange := InterruptController.lt_lineCount_of_isReady ready
  rw [InterruptController.isReady_eq_true] at ready
  have still := InterruptController.isReady_eq_true.2
    ⟨InterruptController.isEnabled_after inRange ready.1 fun e he => (quiet e he).1,
      InterruptController.isPending_after inRange ready.2 (fun e he => (quiet e he).2) unserved⟩
  rw [controller_dispatchLines, still] at unready
  cases unready

end

-- ---------------------------------------------------------------------------
-- The contract
-- ---------------------------------------------------------------------------

theorem controller_runTick (s : Simulator σ) :
    s.runTick.2.bus.controller = s.updated.bus.controller.after s.tickEvents := by
  rw [snd_runTick, controller_endTick, turn, controller_dispatchLines]
  rfl

theorem served_tickEvents (s : Simulator σ) :
    s.tickEvents.filterMap InterruptEvent.served? = s.runTick.1.dispatched :=
  filterMap_served?_dispatchEvents ..

structure DispatchContract (s : Simulator σ) : Prop where
  updated :
    s.updated.bus.entries = s.bus.entries.map (fun e => (Bus.advanceEntry s.config.tick e).1) ∧
      s.runTick.1.requested = s.bus.entries.toList.flatMap (fun e =>
        Bus.requestedLines e.irq (e.device.advance s.config.tick).2) ∧
      s.updated.bus.controller = s.bus.controller.after (s.runTick.1.requested.map .request)
  candidates : s.ready.Pairwise (· < ·) ∧ ∀ line, line ∈ s.ready ↔
    s.updated.bus.controller.isEnabled line = true ∧
      s.updated.bus.controller.isPending line = true
  ascending : s.runTick.1.dispatched.Sublist s.ready ∧ s.runTick.1.dispatched.Pairwise (· < ·)
  dispatched_iff : ∀ before line after, s.ready = before ++ line :: after →
    (line ∈ s.runTick.1.dispatched ↔ (s.turn before).stuck = false ∧
      (s.turn before).bus.controller.isEnabled line = true ∧
        (s.turn before).bus.controller.isPending line = true)
  omitted : ∀ before line after, s.ready = before ++ line :: after →
    line ∉ s.runTick.1.dispatched → (s.turn before).stuck = false →
      ∃ e ∈ s.updated.dispatchEvents (s.tick + 1) before,
        e.disables line = true ∨ e.clears line = true
  /-- Nothing but a handler that never returns keeps a candidate from its turn. -/
  uninterrupted : s.runTick.2.stuck = false → ∀ before after, s.ready = before ++ after →
    (s.turn before).stuck = false
  served : ∀ before line after, s.ready = before ++ line :: after →
    line ∈ s.runTick.1.dispatched →
      ((s.turn before).consume line).bus.controller.isPending line = false ∧
        (s.turn (before ++ [line])) =
          match s.handler? line with
          | some handler =>
            let (returned, t) := (handler line (s.tick + 1)).run ((s.turn before).consume line)
            if returned.isNone then { t with stuck := true } else t
          | none => (s.turn before).consume line
  passed : ∀ before line after, s.ready = before ++ line :: after →
    line ∉ s.runTick.1.dispatched → s.turn (before ++ [line]) = s.turn before
  /-- What a dispatched line's own handler or a later one asks of it waits for the next tick,
  unless a handler clears it. -/
  kept : ∀ line a b e c, s.tickEvents = a ++ .dispatch line :: b ++ e :: c →
    e.requests line = true → (∀ x ∈ c, x.clears line = false) →
      s.runTick.2.bus.controller.isPending line = true
  events : s.runTick.2.bus.controller = s.updated.bus.controller.after s.tickEvents ∧
    s.tickEvents.filterMap InterruptEvent.served? = s.runTick.1.dispatched
  ends : s.turn [] = s.updated ∧
    s.turn s.ready = s.runTick.1.dispatched.foldl
      (fun t line => (t.consume line).runHandler line (s.tick + 1)) s.updated ∧
    s.runTick.2 = (s.turn s.ready).endTick (s.tick + 1) s.runTick.1.dispatched.length
  handlers : s.runTick.2.handlers = s.handlers
  tick : s.runTick.1.tick = s.tick + 1 ∧
    (s.runTick.2.stuck = false → s.runTick.2.tick = s.tick + 1)

section
variable {s : Simulator σ} {before after : List UInt32} {line : UInt32}

theorem mem_dispatched_iff (h : s.ready = before ++ line :: after) :
    line ∈ s.runTick.1.dispatched ↔
      (s.turn before).stuck = false ∧ (s.turn before).bus.controller.isReady line = true := by
  rw [fst_runTick, h]
  exact mem_dispatchLines_iff (h ▸ s.nodup_ready)

theorem turn_append (s : Simulator σ) (a b : List UInt32) :
    s.turn (a ++ b) = ((s.turn a).dispatchLines (s.tick + 1) b).2 := by
  simp only [turn, dispatchLines_append]

theorem turn_passed (h : s.ready = before ++ line :: after)
    (passed : line ∉ s.runTick.1.dispatched) : s.turn (before ++ [line]) = s.turn before := by
  rw [mem_dispatched_iff h] at passed
  rw [turn_append]
  cases stuck : (s.turn before).stuck with
  | true => rw [dispatchLines_of_stuck stuck]
  | false =>
    rw [dispatchLines_skip (by simpa [stuck] using passed)]
    rfl

theorem turn_served (h : s.ready = before ++ line :: after)
    (served : line ∈ s.runTick.1.dispatched) :
    s.turn (before ++ [line]) = ((s.turn before).consume line).runHandler line (s.tick + 1) := by
  obtain ⟨stuck, ready⟩ := (mem_dispatched_iff h).1 served
  rw [turn_append, dispatchLines_serve stuck ready]
  rfl

theorem handler?_consume_turn (s : Simulator σ) (before : List UInt32) (line : UInt32) :
    ((s.turn before).consume line).handler? line = s.handler? line := by
  have same := (s.sameTables_updated.trans (sameTables_dispatchLines s.updated (s.tick + 1) before))
  show ((s.turn before).handlers[line.toNat]?).join = _
  rw [turn, same.handlers, handler?]

theorem nodup_served_tickEvents (s : Simulator σ) :
    (s.tickEvents.filterMap InterruptEvent.served?).Nodup := by
  rw [served_tickEvents]
  exact s.nodup_ready.sublist (sublist_dispatchLines ..)

theorem isPending_of_requests_after_dispatch {a b c : List InterruptEvent} {e : InterruptEvent}
    (h : s.tickEvents = a ++ .dispatch line :: b ++ e :: c) (requested : e.requests line = true)
    (uncleared : ∀ x ∈ c, x.clears line = false) :
    s.runTick.2.bus.controller.isPending line = true := by
  have admits : s.updated.bus.controller.Admits s.tickEvents := admits_dispatchEvents ..
  have once := s.nodup_served_tickEvents
  rw [h, List.filterMap_append] at once
  have unserved (x : InterruptEvent) (hx : x ∈ c) : x.served? ≠ some line := fun served =>
    (List.nodup_append.1 once).2.2 line
      (List.mem_filterMap.2 ⟨.dispatch line, by simp, rfl⟩) line
      (List.mem_filterMap.2 ⟨x, List.mem_cons_of_mem _ hx, served⟩) rfl
  rw [h, List.append_assoc, InterruptController.admits_append] at admits
  have inRange : line < s.updated.bus.controller.lineCount := by
    simpa using InterruptController.lt_lineCount_of_isReady (admits.2.1 line rfl)
  rw [controller_runTick, h, InterruptController.after_append, InterruptController.after_cons]
  refine InterruptController.isPending_after (by simpa using inRange) ?_ uncleared unserved
  exact InterruptController.isPending_apply_of_requests (by simpa using inRange) requested

theorem cause_of_omitted (h : s.ready = before ++ line :: after)
    (omitted : line ∉ s.runTick.1.dispatched) (going : (s.turn before).stuck = false) :
    ∃ e ∈ s.updated.dispatchEvents (s.tick + 1) before,
      e.disables line = true ∨ e.clears line = true := by
  have mem : line ∈ s.ready := h ▸ List.mem_append_right _ List.mem_cons_self
  have unready : (s.turn before).bus.controller.isReady line = false := by
    simpa [mem_dispatched_iff h, going] using omitted
  exact exists_disables_or_clears (h ▸ s.nodup_ready) (InterruptController.mem_readyLines.1 mem)
    unready

theorem stuck_turn_of_ended (ended : s.runTick.2.stuck = false) (h : s.ready = before ++ after) :
    (s.turn before).stuck = false := by
  rw [snd_runTick, stuck_endTick, h, turn_append] at ended
  cases stuck : (s.turn before).stuck with
  | true => rw [stuck_dispatchLines_of_stuck stuck] at ended; cases ended
  | false => rfl

end

theorem runTick_dispatchContract (s : Simulator σ) : s.DispatchContract where
  updated := ⟨s.entries_updated, s.requested_eq, s.controller_updated⟩
  candidates := by
    refine ⟨InterruptController.pairwise_readyLines _, fun line => ?_⟩
    rw [ready, InterruptController.mem_readyLines, InterruptController.isReady_eq_true]
  ascending :=
    ⟨sublist_dispatchLines .., (InterruptController.pairwise_readyLines _).sublist
      (sublist_dispatchLines ..)⟩
  dispatched_iff before line after h := by
    rw [mem_dispatched_iff h, InterruptController.isReady_eq_true]
  omitted before line after h := cause_of_omitted h
  uninterrupted ended before after h := stuck_turn_of_ended ended h
  served before line after h served := by
    refine ⟨InterruptController.not_isPending_apply_dispatch, ?_⟩
    rw [turn_served h served]
    cases found : s.handler? line with
    | none => exact runHandler_of_none ((handler?_consume_turn s before line).trans found) _
    | some handler => exact runHandler_of_some ((handler?_consume_turn s before line).trans found) _
  passed before line after h := turn_passed h
  kept line a b e c h requested uncleared :=
    isPending_of_requests_after_dispatch h requested uncleared
  events := ⟨s.controller_runTick, s.served_tickEvents⟩
  ends := ⟨rfl, snd_dispatchLines .., s.snd_runTick⟩
  handlers := by
    rw [snd_runTick, handlers_endTick, turn]
    exact (s.sameTables_updated.trans (sameTables_dispatchLines ..)).handlers
  tick := by
    refine ⟨rfl, fun stuck => ?_⟩
    rw [snd_runTick, stuck_endTick] at stuck
    rw [snd_runTick, endTick, stuck]
    rfl

end BoardSim.Simulator
