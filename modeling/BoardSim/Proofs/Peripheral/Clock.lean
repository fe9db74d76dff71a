import Mathlib.Algebra.Ring.Nat
import Mathlib.Logic.Function.Iterate
import BoardSim.TickClock

/-!
# The range of a clock

A conversion is exact as long as the cycles that are due fit in 64 bits (`exact_iff`); then the
cycles handed out and the fraction left over account for all of the time (`Exact.accounts`), also
over steps of any lengths (`ExactOver.accounts`). Whether a step is short enough for the rate of a
clock does not depend on the fraction for long: a step that is exact from every fraction is exact
for ever (`exact_of_le`), and any longer one makes the fraction grow until a cycle too many is due
(`exists_not_exact`).
-/

namespace BoardSim.TickClock

variable {clock : TickClock} {nanos : Nat}

/-- Cycles times 10⁹ that are due after `nanos` more nanoseconds, however many bits they take. -/
def due (clock : TickClock) (nanos : Nat) : Nat :=
  nanos * clock.hz.toNat + clock.remainder.toNat

/-- The conversion loses nothing: the product fits in 128 bits, and the cycles fit in 64. -/
structure Exact (clock : TickClock) (nanos : Nat) : Prop where
  product : clock.due nanos < UInt64.size * UInt64.size
  quotient : clock.due nanos / nanosPerSecond < UInt64.size

theorem exact_iff : clock.Exact nanos ↔ clock.due nanos < UInt64.size * nanosPerSecond := by
  constructor
  · intro exact
    exact (Nat.div_lt_iff_lt_mul (by decide)).1 exact.quotient
  · intro fits
    refine ⟨Nat.lt_trans fits (by decide), (Nat.div_lt_iff_lt_mul (by decide)).2 fits⟩

theorem Exact.toNat_cycles (exact : clock.Exact nanos) :
    (clock.advance nanos).1.toNat = clock.due nanos / nanosPerSecond := by
  have scaled : clock.scaled nanos = clock.due nanos := Nat.mod_eq_of_lt exact.product
  rw [advance, scaled]
  exact UInt64.toNat_ofNat_of_lt exact.quotient

theorem Exact.toNat_remainder (exact : clock.Exact nanos) :
    (clock.advance nanos).2.remainder.toNat = clock.due nanos % nanosPerSecond := by
  have scaled : clock.scaled nanos = clock.due nanos := Nat.mod_eq_of_lt exact.product
  have small : clock.due nanos % nanosPerSecond < UInt64.size :=
    Nat.lt_trans (Nat.mod_lt _ (by decide)) (by decide)
  rw [advance, scaled]
  exact UInt64.toNat_ofNat_of_lt small

/-- What is handed out and what is left over make up what was due. -/
theorem Exact.accounts (exact : clock.Exact nanos) :
    (clock.advance nanos).1.toNat * nanosPerSecond + (clock.advance nanos).2.remainder.toNat =
      clock.due nanos := by
  rw [exact.toNat_cycles, exact.toNat_remainder, Nat.mul_comm]
  exact Nat.div_add_mod _ _

/-- What comes due later is what comes due in all, but for the cycles handed out. -/
theorem Exact.due_advance (exact : clock.Exact nanos) (more : Nat) :
    (clock.advance nanos).2.due more + (clock.advance nanos).1.toNat * nanosPerSecond =
      clock.due (nanos + more) := by
  have accounts := exact.accounts
  unfold due at accounts ⊢
  rw [hz_advance, Nat.add_mul]
  omega

/-- A conversion that is not exact hands out too few cycles. -/
theorem cycles_lt_of_not_exact (inexact : ¬ clock.Exact nanos) :
    (clock.advance nanos).1.toNat < clock.due nanos / nanosPerSecond := by
  have long : UInt64.size * nanosPerSecond ≤ clock.due nanos :=
    Nat.le_of_not_lt fun fits => inexact (exact_iff.2 fits)
  exact Nat.lt_of_lt_of_le (UInt64.toNat_lt_size _) ((Nat.le_div_iff_mul_le (by decide)).2 long)

-- ---------------------------------------------------------------------------
-- Steps of any lengths
-- ---------------------------------------------------------------------------

def stepped (clock : TickClock) : List Nat → TickClock
  | [] => clock
  | nanos :: rest => (clock.advance nanos).2.stepped rest

def cyclesOver (clock : TickClock) : List Nat → Nat
  | [] => 0
  | nanos :: rest => (clock.advance nanos).1.toNat + (clock.advance nanos).2.cyclesOver rest

def ExactOver (clock : TickClock) : List Nat → Prop
  | [] => True
  | nanos :: rest => clock.Exact nanos ∧ (clock.advance nanos).2.ExactOver rest

theorem cyclesOver_append (clock : TickClock) (steps more : List Nat) :
    clock.cyclesOver (steps ++ more) =
      clock.cyclesOver steps + (clock.stepped steps).cyclesOver more := by
  induction steps generalizing clock with
  | nil => exact (Nat.zero_add _).symm
  | cons nanos rest ih => simp only [List.cons_append, cyclesOver, stepped, ih, Nat.add_assoc]

/-- However time is split into steps, nothing of it is lost. -/
theorem ExactOver.accounts {steps : List Nat} (exact : clock.ExactOver steps) :
    clock.cyclesOver steps * nanosPerSecond + (clock.stepped steps).remainder.toNat =
      clock.due steps.sum := by
  induction steps generalizing clock with
  | nil => simp [cyclesOver, stepped, due]
  | cons nanos rest ih =>
    have first := exact.1.due_advance rest.sum
    have later := ih exact.2
    rw [List.sum_cons, ← first, ← later, cyclesOver, stepped, Nat.add_mul]
    omega

-- ---------------------------------------------------------------------------
-- Steps of one length
-- ---------------------------------------------------------------------------

/-- The most cycles times 10⁹ that every step may bring, with `slack` cycles to spare. -/
def capacity (slack : Nat) : Nat := (UInt64.size - 1 - slack) * nanosPerSecond

/-- A step within the capacity is exact from every fraction of a cycle, and leaves the slack. -/
theorem exact_of_le (slack : Nat) (within : nanos * clock.hz.toNat ≤ capacity slack)
    (fraction : clock.remainder.toNat < nanosPerSecond) :
    clock.Exact nanos ∧ (clock.advance nanos).1.toNat ≤ UInt64.size - 1 - slack := by
  have due : clock.due nanos < (UInt64.size - 1 - slack + 1) * nanosPerSecond := by
    unfold due
    unfold capacity at within
    rw [Nat.add_mul, Nat.one_mul]
    omega
  have cycles := Nat.lt_succ_iff.1 ((Nat.div_lt_iff_lt_mul (by decide)).2 due)
  have exact : clock.Exact nanos := by
    refine exact_iff.2 (Nat.lt_of_lt_of_le due (Nat.mul_le_mul_right _ ?_))
    unfold UInt64.size
    omega
  exact ⟨exact, exact.toNat_cycles ▸ cycles⟩

def later (clock : TickClock) (nanos steps : Nat) : TickClock :=
  (fun c => (c.advance nanos).2)^[steps] clock

theorem later_succ (clock : TickClock) (nanos steps : Nat) :
    clock.later nanos (steps + 1) = ((clock.later nanos steps).advance nanos).2 :=
  Function.iterate_succ_apply' _ steps clock

theorem hz_later (clock : TickClock) (nanos steps : Nat) :
    (clock.later nanos steps).hz = clock.hz := by
  induction steps with
  | zero => rfl
  | succ steps ih => rw [later_succ, hz_advance, ih]

/-- If a step brings more than `most` cycles, the fraction grows until one more than these is
due. -/
theorem exists_due_gt (most : Nat) (fits : most < UInt64.size)
    (beyond : most * nanosPerSecond < nanos * clock.hz.toNat) :
    ∃ steps, most < (clock.later nanos steps).due nanos / nanosPerSecond := by
  refine Classical.byContradiction fun none => ?_
  have few (steps : Nat) : (clock.later nanos steps).due nanos / nanosPerSecond ≤ most :=
    Nat.le_of_not_lt fun more => none ⟨steps, more⟩
  have grows (steps : Nat) : steps ≤ (clock.later nanos steps).remainder.toNat := by
    induction steps with
    | zero => exact Nat.zero_le _
    | succ steps ih =>
      have exact : (clock.later nanos steps).Exact nanos :=
        exact_iff.2 ((Nat.div_lt_iff_lt_mul (by decide)).1 (Nat.lt_of_le_of_lt (few steps) fits))
      have accounts := exact.accounts
      have handed := Nat.mul_le_mul_right nanosPerSecond (exact.toNat_cycles ▸ few steps)
      rw [due, hz_later] at accounts
      rw [later_succ]
      omega
  have full := grows (nanosPerSecond + 1)
  have fraction := remainder_advance_lt (clock.later nanos nanosPerSecond) nanos
  rw [later_succ] at full
  omega

/-- Past the capacity some step is not exact. -/
theorem exists_not_exact (beyond : capacity 0 < nanos * clock.hz.toNat) :
    ∃ steps, ¬ (clock.later nanos steps).Exact nanos := by
  obtain ⟨steps, long⟩ := exists_due_gt (UInt64.size - 1) (by decide) beyond
  exact ⟨steps, fun exact => Nat.not_le_of_lt long (Nat.le_pred_of_lt exact.quotient)⟩

end BoardSim.TickClock
