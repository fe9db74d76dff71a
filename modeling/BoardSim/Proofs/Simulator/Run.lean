import BoardSim.Proofs.Simulator.Tick

/-!
# Whole runs

A run is any list of moves: ticks, calls that the host or the firmware makes between ticks, pending
bits the host clears, and whatever else leaves the interrupt controller alone. Its history is the
list of events it brings about. `play_deliveryContract` says of one line that no request of it is
lost and none is made up.
-/

namespace BoardSim

variable {σ : Type}

inductive Move (σ : Type) where
  | tick
  | call (c : Call σ)
  | clearPending (line : UInt32)
  /-- Anything that does not reach the interrupt controller: feeding a device, installing a
  handler, starting or stopping. -/
  | other (f : Simulator σ → Simulator σ)
    (apart : ∀ s, (f s).bus.controller = s.bus.controller)

namespace Simulator

def move (s : Simulator σ) : Move σ → Simulator σ
  | .tick => if s.stuck then s else s.runTick.2
  | .call c => if s.stuck && c.usesBus then s else (s.answer c).2
  | .clearPending line =>
    { s with bus := { s.bus with controller := s.bus.controller.clearPending line } }
  | .other f _ => f s

def moveEvents (s : Simulator σ) : Move σ → List InterruptEvent
  | .tick => if s.stuck then [] else s.requested.map .request ++ s.tickEvents
  | .call c => if s.stuck && c.usesBus then [] else s.callEvents c
  | .clearPending line => [.clear line]
  | .other _ _ => []

def moveReports (s : Simulator σ) : Move σ → List TickReport
  | .tick => if s.stuck then [] else [s.runTick.1]
  | _ => []

def play (s : Simulator σ) : List (Move σ) → Simulator σ
  | [] => s
  | m :: rest => (s.move m).play rest

def history (s : Simulator σ) : List (Move σ) → List InterruptEvent
  | [] => []
  | m :: rest => s.moveEvents m ++ (s.move m).history rest

def reports (s : Simulator σ) : List (Move σ) → List TickReport
  | [] => []
  | m :: rest => s.moveReports m ++ (s.move m).reports rest

-- ---------------------------------------------------------------------------
-- One move
-- ---------------------------------------------------------------------------

theorem controller_move (s : Simulator σ) (m : Move σ) :
    (s.move m).bus.controller = s.bus.controller.after (s.moveEvents m) := by
  cases m with
  | tick =>
    simp only [move, moveEvents]
    split
    · rfl
    · rw [controller_runTick, controller_updated, InterruptController.after_append]
  | call c =>
    simp only [move, moveEvents]
    split
    · rfl
    · exact s.controller_answer c
  | clearPending line => rfl
  | other f apart => exact apart s

theorem served_moveEvents (s : Simulator σ) (m : Move σ) :
    (s.moveEvents m).filterMap InterruptEvent.served? =
      (s.moveReports m).flatMap TickReport.dispatched := by
  cases m with
  | tick =>
    simp only [moveEvents, moveReports]
    split
    · rfl
    · have quiet : (s.requested.map InterruptEvent.request).filterMap InterruptEvent.served? = [] :=
        List.filterMap_eq_nil_iff.2 fun e he => by
          obtain ⟨line, -, rfl⟩ := List.mem_map.1 he
          rfl
      simp [quiet, served_tickEvents]
  | call c =>
    simp only [moveEvents]
    split
    · rfl
    · exact List.filterMap_eq_nil_iff.2 fun e he => served?_of_mem_callEvents he
  | clearPending line => rfl
  | other f apart => rfl

theorem admits_moveEvents (s : Simulator σ) (m : Move σ) :
    s.bus.controller.Admits (s.moveEvents m) := by
  cases m with
  | tick =>
    simp only [moveEvents]
    split
    · trivial
    · rw [InterruptController.admits_append, ← controller_updated]
      refine ⟨InterruptController.admits_of_forall_served? fun e he => ?_, ?_⟩
      · obtain ⟨line, -, rfl⟩ := List.mem_map.1 he
        rfl
      · exact admits_dispatchEvents ..
  | call c =>
    simp only [moveEvents]
    split
    · trivial
    · exact InterruptController.admits_of_forall_served? fun e he => served?_of_mem_callEvents he
  | clearPending line => exact ⟨fun _ h => (by cases h), trivial⟩
  | other f apart => trivial

-- ---------------------------------------------------------------------------
-- A run
-- ---------------------------------------------------------------------------

theorem controller_play (s : Simulator σ) (moves : List (Move σ)) :
    (s.play moves).bus.controller = s.bus.controller.after (s.history moves) := by
  induction moves generalizing s with
  | nil => rfl
  | cons m rest ih =>
    rw [play, history, ih, controller_move, InterruptController.after_append]

theorem history_append (s : Simulator σ) (a b : List (Move σ)) :
    s.history (a ++ b) = s.history a ++ (s.play a).history b := by
  induction a generalizing s with
  | nil => rfl
  | cons m rest ih => rw [List.cons_append, history, history, play, ih, List.append_assoc]

theorem history_concat_tick {s : Simulator σ} {moves : List (Move σ)}
    (alive : (s.play moves).stuck = false) :
    s.history (moves ++ [.tick]) =
      s.history moves ++ (s.play moves).requested.map .request ++ (s.play moves).tickEvents := by
  simp [history_append, history, moveEvents, alive]

theorem served_history (s : Simulator σ) (moves : List (Move σ)) :
    (s.history moves).filterMap InterruptEvent.served? =
      (s.reports moves).flatMap TickReport.dispatched := by
  induction moves generalizing s with
  | nil => rfl
  | cons m rest ih =>
    rw [history, reports, List.filterMap_append, List.flatMap_append, ih, served_moveEvents]

theorem admits_history (s : Simulator σ) (moves : List (Move σ)) :
    s.bus.controller.Admits (s.history moves) := by
  induction moves generalizing s with
  | nil => trivial
  | cons m rest ih =>
    rw [history, InterruptController.admits_append, ← controller_move]
    exact ⟨s.admits_moveEvents m, ih _⟩

end Simulator

end BoardSim
