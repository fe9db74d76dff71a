import BoardSim.Proofs.Demo.Chamber
import BoardSim.Proofs.Simulator.Tick

/-!
# The interrupt lines of the demo

Three lines have a handler. `Lines` says which lines firmware has enabled and which of the three are
pending; a tick then comes to the pending ones in ascending order.
-/

namespace BoardSim

namespace Demo

/-- The lines of the converter, the CAN controller and the timer. -/
def served : List UInt32 := [18, 20, 28]

structure Lines (c : InterruptController) (enabled : List UInt32) (pending : UInt32 → Bool) :
    Prop where
  banks : c.banks = 8
  enabled : ∀ line, c.isEnabled line = enabled.contains line
  pending : ∀ line ∈ served, c.isPending line = pending line

namespace Lines

variable {c : InterruptController} {enabled : List UInt32} {pending : UInt32 → Bool}

theorem inRange (h : Lines c enabled pending) {line : UInt32} (low : line < 256) :
    line < c.lineCount := by
  rw [UInt32.lt_iff_toNat_lt, c.toNat_lineCount, h.banks]
  exact low

theorem isReady (h : Lines c served pending) (line : UInt32) :
    c.isReady line = (pending line && served.contains line) := by
  rw [InterruptController.isReady, h.enabled]
  cases listed : served.contains line with
  | true => rw [h.pending line (List.contains_iff_mem.1 listed), Bool.true_and, Bool.and_true]
  | false => rw [Bool.false_and, Bool.and_false]

/-- The pending lines of the three are ready, in ascending order, and no other line is. -/
theorem readyLines (h : Lines c served pending) : c.readyLines = served.filter pending := by
  have lines : c.lines = (List.range 256).map UInt32.ofNat := by
    rw [InterruptController.lines, h.banks]
    rfl
  have three : ((List.range 256).map UInt32.ofNat).filter served.contains = served := by
    decide +kernel
  calc c.readyLines = c.lines.filter fun line => pending line && served.contains line :=
        List.filter_congr fun line _ => h.isReady line
    _ = served.filter pending := by rw [← List.filter_filter, lines, three]

theorem consume (h : Lines c enabled pending) (line : UInt32) :
    Lines (c.clearPending line) enabled fun other => pending other && decide (other ≠ line) where
  banks := h.banks
  enabled := h.enabled
  pending other mem := by rw [InterruptController.isPending_clearPending, h.pending other mem]

theorem low_of_mem_served {line : UInt32} (mem : line ∈ served) : line < 256 := by
  have table : ∀ line ∈ served, line < 256 := by simp [served]
  exact table line mem

theorem latch (h : Lines c enabled pending) (line : UInt32) :
    Lines (c.latch line) enabled fun other => pending other || decide (other = line) where
  banks := h.banks
  enabled := h.enabled
  pending other mem := by
    rw [InterruptController.isPending_latch, h.pending other mem]
    congr 2
    refine propext ⟨And.left, fun same => ⟨same, ?_⟩⟩
    exact h.inRange (same ▸ low_of_mem_served mem)

/-- The lines that devices ask for, latched one after the other. -/
theorem latchAll (h : Lines c enabled pending) (requested : List UInt32) :
    Lines (requested.foldl (·.latch ·) c) enabled fun line =>
      pending line || decide (line ∈ requested) := by
  induction requested generalizing c pending with
  | nil => simpa using h
  | cons line rest ih =>
    have both (other : UInt32) : (pending other || decide (other ∈ line :: rest)) =
        (pending other || decide (other = line) || decide (other ∈ rest)) := by
      simp [Bool.or_assoc]
    simp only [List.foldl_cons, both]
    exact ih (h.latch line)

theorem enable (h : Lines c enabled pending) (line : UInt32) (low : line < 256) :
    Lines (c.setEnabled line true) (line :: enabled) pending where
  banks := h.banks
  enabled other := by
    rw [InterruptController.isEnabled_setEnabled, h.enabled, List.contains_cons]
    by_cases same : other = line
    · simp [same, h.inRange low]
    · simp [same]
  pending := h.pending

theorem congr (h : Lines c enabled pending) {enabled' : List UInt32} {pending' : UInt32 → Bool}
    (lines : ∀ line, line ∈ enabled ↔ line ∈ enabled')
    (same : ∀ line ∈ served, pending line = pending' line) : Lines c enabled' pending' where
  banks := h.banks
  enabled line := by
    rw [h.enabled, Bool.eq_iff_iff, List.contains_iff_mem, List.contains_iff_mem, lines]
  pending line mem := by rw [h.pending line mem, same line mem]

end Lines

end Demo

-- ---------------------------------------------------------------------------
-- The turns of a tick
-- ---------------------------------------------------------------------------

namespace Simulator

variable {σ : Type}

/-- A list of one line that is ready if it is listed. -/
theorem snd_dispatchLines_filter {s : Simulator σ} {line : UInt32} {due : UInt32 → Bool}
    (alive : s.stuck = false) (ready : s.bus.controller.isReady line = due line) (tick : UInt64) :
    (s.dispatchLines tick ([line].filter due)).2 =
      if due line then (s.consume line).runHandler line tick else s := by
  cases h : due line with
  | true =>
    rw [List.filter_cons_of_pos h, dispatchLines_serve alive (ready.trans h)]
    rfl
  | false =>
    rw [List.filter_cons_of_neg (by simp [h])]
    rfl

end Simulator

end BoardSim
