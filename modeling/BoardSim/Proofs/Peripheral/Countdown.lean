import Mathlib.Logic.Function.Iterate

/-!
# Down-counters

A down-counter takes one off its value in every cycle, and from zero it starts over at its reload
value. `iterate_of_le` and `iterate_past_zero` say where any number of cycles leaves it: `state n v`
is the device with `v` cycles left, after `n` reloads. The lemmas before them say what a device
finds that works out the same in words of 64 bits.
-/

namespace BoardSim.Countdown

-- ---------------------------------------------------------------------------
-- In 64 bits
-- ---------------------------------------------------------------------------

section
variable (value : UInt32) {cycles : UInt64}

theorem toUInt32_left (short : cycles.toNat ≤ value.toNat) :
    (value.toUInt64 - cycles).toUInt32 = UInt32.ofNat (value.toNat - cycles.toNat) := by
  rw [← UInt64.toUInt32_ofNat', UInt64.ofNat_sub short, UInt64.ofNat_uInt32ToNat,
    UInt64.ofNat_toNat]

/-- The cycles after the one in which the value passes zero. -/
theorem sub_sub_one {past : Nat} (total : cycles.toNat = value.toNat + 1 + past) :
    cycles - value.toUInt64 - 1 = UInt64.ofNat past := by
  rw [show past = cycles.toNat - value.toNat - 1 by omega, UInt64.ofNat_sub (by omega),
    UInt64.ofNat_sub (by omega), UInt64.ofNat_uInt32ToNat, UInt64.ofNat_toNat]
  rfl

theorem toUInt64_succ (reload : UInt32) :
    reload.toUInt64 + 1 = UInt64.ofNat (reload.toNat + 1) := by
  rw [UInt64.ofNat_add, UInt64.ofNat_uInt32ToNat]
  rfl

theorem toUInt32_round (reload : UInt32) {past : Nat} (fits : past < UInt64.size) :
    (reload.toUInt64 - UInt64.ofNat past % (reload.toUInt64 + 1)).toUInt32 =
      UInt32.ofNat (reload.toNat - past % (reload.toNat + 1)) := by
  have narrow := reload.toNat_lt
  have phase : past % (reload.toNat + 1) ≤ reload.toNat :=
    Nat.le_of_lt_succ (Nat.mod_lt _ (Nat.succ_pos _))
  rw [toUInt64_succ, ← UInt64.ofNat_mod fits (by omega), ← UInt64.ofNat_uInt32ToNat,
    ← UInt64.ofNat_sub phase, UInt64.toUInt32_ofNat']

end

-- ---------------------------------------------------------------------------
-- Many cycles
-- ---------------------------------------------------------------------------

variable {δ : Type} {cycle : δ → δ} {state : Nat → Nat → δ} {size : Nat}
  (down : ∀ n v, v + 1 < size → cycle (state n (v + 1)) = state n v)
include down

theorem iterate_of_le (n : Nat) {v k : Nat} (hv : v < size) (hk : k ≤ v) :
    cycle^[k] (state n v) = state n (v - k) := by
  induction k with
  | zero => rfl
  | succ k ih =>
    obtain ⟨rest, left⟩ : ∃ rest, v - k = rest + 1 := ⟨v - k - 1, by omega⟩
    rw [Function.iterate_succ_apply', ih (by omega), left, down n rest (by omega)]
    congr 1
    omega

variable {reload : Nat} (wrap : ∀ n, cycle (state n 0) = state (n + 1) reload)
include wrap

theorem iterate_to_reload (n : Nat) {v : Nat} (hv : v < size) (past : Nat) :
    cycle^[v + 1 + past] (state n v) = cycle^[past] (state (n + 1) reload) := by
  rw [Nat.add_comm, Function.iterate_add_apply, Function.iterate_succ_apply',
    iterate_of_le down n hv (Nat.le_refl v), Nat.sub_self, wrap]

/-- Once the value has passed zero, a round takes one cycle more than the reload value. -/
theorem iterate_past_zero (hr : reload < size) (n : Nat) {v : Nat} (hv : v < size) (past : Nat) :
    cycle^[v + 1 + past] (state n v) =
      state (n + 1 + past / (reload + 1)) (reload - past % (reload + 1)) := by
  rw [iterate_to_reload down wrap n hv]
  induction past using Nat.strongRecOn generalizing n with
  | ind past ih =>
    by_cases short : past ≤ reload
    · rw [iterate_of_le down _ hr short, Nat.div_eq_of_lt (Nat.lt_succ_of_le short),
        Nat.mod_eq_of_lt (Nat.lt_succ_of_le short), Nat.add_zero]
    · obtain ⟨rest, rfl⟩ : ∃ rest, past = reload + 1 + rest := ⟨past - (reload + 1), by omega⟩
      have round : (reload + 1 + rest) / (reload + 1) = rest / (reload + 1) + 1 :=
        Nat.add_div_left rest (Nat.succ_pos reload)
      rw [iterate_to_reload down wrap _ hr, ih rest (by omega), round, Nat.add_mod_left]
      congr 1
      omega

end BoardSim.Countdown
