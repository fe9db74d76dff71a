import Mathlib.Algebra.Order.Field.Rat
import Mathlib.Algebra.Order.Floor.Semifield
import Mathlib.Data.Rat.Floor
import BoardSim.Proofs.Peripheral.Clock

/-!
# Clocks do not drift

After any exact steps from a fresh clock the cycles handed out are the whole cycles in the time that
has passed, and what is left over is the fraction of the next one (`OnTime`). So the clock is less
than a cycle behind at every point of a run, and how the time is split into steps makes no
difference (`driftContract`).
-/

namespace BoardSim.TickClock

def cyclesIn (hz : UInt64) (nanos : Nat) : ℚ := (hz.toNat * nanos : Nat) / (nanosPerSecond : Nat)

/-- A clock of `hz` that was fresh `nanos` nanoseconds ago and has handed out `cycles` since. -/
structure OnTime (hz : UInt64) (nanos cycles : Nat) (clock : TickClock) : Prop where
  rate : clock.hz = hz
  cycles_eq : cycles = ⌊cyclesIn hz nanos⌋₊
  remainder : clock.remainder.toNat = hz.toNat * nanos % nanosPerSecond
  fraction : clock.remainder.toNat < nanosPerSecond
  notAhead : cycles ≤ cyclesIn hz nanos
  behind : cyclesIn hz nanos < cycles + 1

structure DriftContract (hz : UInt64) (steps : List Nat) : Prop where
  onTime : ∀ taken, taken <+: steps →
    OnTime hz taken.sum (cyclesOver { hz } taken) (stepped { hz } taken)
  unsplit : ∀ other, ExactOver { hz } other → other.sum = steps.sum →
    cyclesOver { hz } other = cyclesOver { hz } steps ∧ stepped { hz } other = stepped { hz } steps

theorem hz_stepped (clock : TickClock) (steps : List Nat) :
    (clock.stepped steps).hz = clock.hz := by
  induction steps generalizing clock with
  | nil => rfl
  | cons nanos rest ih => exact ih _

theorem remainder_stepped_lt {clock : TickClock} (fraction : clock.remainder.toNat < nanosPerSecond)
    (steps : List Nat) : (clock.stepped steps).remainder.toNat < nanosPerSecond := by
  induction steps generalizing clock with
  | nil => exact fraction
  | cons nanos rest ih => exact ih (remainder_advance_lt clock nanos)

theorem ExactOver.of_append {clock : TickClock} {steps more : List Nat}
    (exact : clock.ExactOver (steps ++ more)) : clock.ExactOver steps := by
  induction steps generalizing clock with
  | nil => trivial
  | cons nanos rest ih => exact ⟨exact.1, ih exact.2⟩

theorem floor_cyclesIn (hz : UInt64) (nanos : Nat) :
    ⌊cyclesIn hz nanos⌋₊ = hz.toNat * nanos / nanosPerSecond :=
  Nat.floor_div_eq_div (K := ℚ) _ _

/-- The account of the time has one division with remainder. -/
theorem onTime_of_exactOver {hz : UInt64} {steps : List Nat}
    (exact : ExactOver { hz } steps) :
    OnTime hz steps.sum (cyclesOver { hz } steps) (stepped { hz } steps) := by
  have fraction : (stepped { hz } steps).remainder.toNat < nanosPerSecond :=
    remainder_stepped_lt (show (0 : UInt64).toNat < nanosPerSecond by decide) steps
  have accounts : (stepped { hz } steps).remainder.toNat +
      nanosPerSecond * cyclesOver { hz } steps = hz.toNat * steps.sum := by
    have due : cyclesOver { hz } steps * nanosPerSecond +
        (stepped { hz } steps).remainder.toNat = steps.sum * hz.toNat := exact.accounts
    rw [Nat.add_comm, Nat.mul_comm, due, Nat.mul_comm]
  obtain ⟨cycles, remainder⟩ := (Nat.div_mod_unique (by decide)).2 ⟨accounts, fraction⟩
  have whole : cyclesOver { hz } steps = ⌊cyclesIn hz steps.sum⌋₊ := by
    rw [floor_cyclesIn, cycles]
  have positive : 0 ≤ cyclesIn hz steps.sum := by
    unfold cyclesIn
    positivity
  exact {
    rate := hz_stepped _ _
    cycles_eq := whole
    remainder := remainder.symm
    fraction := fraction
    notAhead := whole ▸ Nat.floor_le positive
    behind := whole ▸ Nat.lt_floor_add_one _ }

/-- The time that has passed tells the whole state of the clock. -/
theorem OnTime.unique {hz : UInt64} {nanos cycles cycles' : Nat} {clock clock' : TickClock}
    (h : OnTime hz nanos cycles clock) (h' : OnTime hz nanos cycles' clock') :
    cycles' = cycles ∧ clock' = clock := by
  refine ⟨h'.cycles_eq.trans h.cycles_eq.symm, ?_⟩
  have rate := h'.rate.trans h.rate.symm
  have remainder := UInt64.toNat_inj.1 (h'.remainder.trans h.remainder.symm)
  cases clock
  cases clock'
  exact congrArg₂ TickClock.mk rate remainder

theorem driftContract {hz : UInt64} {steps : List Nat} (exact : ExactOver { hz } steps) :
    DriftContract hz steps where
  onTime := by
    rintro taken ⟨rest, rfl⟩
    exact onTime_of_exactOver exact.of_append
  unsplit other exactOther same :=
    (onTime_of_exactOver exact).unique (same ▸ onTime_of_exactOver exactOther)

/-- A second at 1 Hz, split into three steps of which none is worth a cycle by itself. -/
theorem driftContract_thirds :
    ExactOver { hz := 1 } [333333333, 333333333, 333333334] ∧
      DriftContract 1 [333333333, 333333333, 333333334] ∧
      cyclesOver { hz := 1 } [333333333, 333333333] = 0 ∧
      cyclesOver { hz := 1 } [333333333, 333333333, 333333334] = 1 := by
  have exact : ExactOver { hz := 1 } [333333333, 333333333, 333333334] :=
    ⟨exact_iff.2 (by decide), exact_iff.2 (by decide), exact_iff.2 (by decide), trivial⟩
  exact ⟨exact, driftContract exact, by decide, by decide⟩

end BoardSim.TickClock
