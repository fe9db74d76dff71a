import BoardSim.Peripheral
import Mathlib.Algebra.BigOperators.Group.Finset.Basic
import Mathlib.Algebra.BigOperators.Intervals

/-!
# Bytes of a payload

A 64-bit payload or answer as eight bytes, the lowest first. A narrow access uses the low ones.
-/

namespace BoardSim.Peripheral

open Finset (range)

def payloadByte (payload : UInt64) (k : Nat) : UInt8 := (payload >>> UInt64.ofNat (8 * k)).toUInt8

theorem byte_ext {a b : UInt8}
    (h : ∀ j < 8, a.toBitVec.getLsbD j = b.toBitVec.getLsbD j) : a = b :=
  UInt8.eq_of_toBitVec_eq (BitVec.eq_of_getLsbD_eq h)

theorem getLsbD_payloadByte (payload : UInt64) {k j : Nat} (hk : k < 8) (hj : j < 8) :
    (payloadByte payload k).toBitVec.getLsbD j = payload.toBitVec.getLsbD (8 * k + j) := by
  have shift : 8 * k % 18446744073709551616 % 64 = 8 * k := by omega
  simp [payloadByte, hj, shift]

theorem payloadByte_and_low (payload : UInt64) {k : Nat} (hk : k < 4) :
    payloadByte (payload &&& 0xFFFFFFFF) k = payloadByte payload k := by
  have low : ∀ b < 32, (0xFFFFFFFF : UInt64).toBitVec.getLsbD b = true := by decide
  apply byte_ext
  intro j hj
  rw [getLsbD_payloadByte _ (by omega) hj, getLsbD_payloadByte _ (by omega) hj,
    UInt64.toBitVec_and, BitVec.getLsbD_and, low _ (by omega), Bool.and_true]

theorem payloadByte_shiftRight (payload : UInt64) {i k : Nat} (h : i + k < 8) :
    payloadByte (payload >>> UInt64.ofNat (i * 8)) k = payloadByte payload (i + k) := by
  have shift : i * 8 % 18446744073709551616 % 64 = i * 8 := by omega
  apply byte_ext
  intro j hj
  rw [getLsbD_payloadByte _ (by omega) hj, getLsbD_payloadByte _ h hj,
    show 8 * (i + k) + j = i * 8 + (8 * k + j) by omega]
  simp [shift]

theorem payloadByte_lowest (payload : UInt64) : payloadByte (payload &&& 0xFF) 0 =
    payloadByte payload 0 := by
  have low : ∀ b < 8, (0xFF : UInt64).toBitVec.getLsbD b = true := by decide
  apply byte_ext
  intro j hj
  rw [getLsbD_payloadByte _ (by decide) hj, getLsbD_payloadByte _ (by decide) hj,
    UInt64.toBitVec_and, BitVec.getLsbD_and, low _ (by omega), Bool.and_true]

theorem payloadByte_join {low high : UInt64} {n k : Nat} (hn : n < 8) (hk : k < 8)
    (narrow : ∀ k < 8, n ≤ k → payloadByte low k = 0) :
    payloadByte (low ||| (high <<< UInt64.ofNat (n * 8))) k =
      if k < n then payloadByte low k else payloadByte high (k - n) := by
  have shift : n * 8 % 18446744073709551616 % 64 = n * 8 := by omega
  apply byte_ext
  intro j hj
  have hb : 8 * k + j < 64 := by omega
  rw [getLsbD_payloadByte _ hk hj, UInt64.toBitVec_or, BitVec.getLsbD_or]
  by_cases h : k < n
  · have below : 8 * k + j < n * 8 := by omega
    rw [if_pos h, getLsbD_payloadByte _ hk hj]
    simp [shift, below]
  · have above : ¬8 * k + j < n * 8 := by omega
    have bit : 8 * k + j - n * 8 = 8 * (k - n) + j := by omega
    have empty := congrArg (·.toBitVec.getLsbD j) (narrow k hk (by omega))
    simp only [getLsbD_payloadByte _ hk hj] at empty
    rw [if_neg h, getLsbD_payloadByte _ (by omega) hj, empty]
    simp [shift, above, bit, hb]
    exact (BitVec.getLsbD_eq_getElem _).symm

theorem toNat_payloadByte (payload : UInt64) {k : Nat} (hk : k < 8) :
    (payloadByte payload k).toNat = payload.toNat / 256 ^ k % 256 := by
  have shift : 8 * k % 18446744073709551616 % 64 = 8 * k := by omega
  simp [payloadByte, shift, Nat.shiftRight_eq_div_pow, Nat.pow_mul]

/-- A value is the little-endian sum of its bytes. -/
theorem toNat_eq_sum_payloadByte (value : UInt64) {n : Nat} (hn : n ≤ 8)
    (narrow : ∀ k < 8, n ≤ k → payloadByte value k = 0) :
    value.toNat = ∑ i ∈ range n, (payloadByte value i).toNat * 256 ^ i := by
  have digits (m : Nat) (hm : m ≤ 8) :
      value.toNat % 256 ^ m = ∑ i ∈ range m, (payloadByte value i).toNat * 256 ^ i := by
    induction m with
    | zero => simp [Nat.mod_one]
    | succ m ih =>
      rw [Finset.sum_range_succ, ← ih (by omega), toNat_payloadByte _ (by omega),
        Nat.mod_pow_succ, Nat.mul_comm]
  have whole : value.toNat % 256 ^ 8 = value.toNat := Nat.mod_eq_of_lt value.toNat_lt
  rw [← whole, digits 8 le_rfl]
  symm
  apply Finset.sum_subset (Finset.range_subset_range.2 hn)
  intro i hi above
  rw [narrow i (Finset.mem_range.1 hi) (by simpa using above)]
  simp

theorem payloadByte_congr {v w : UInt64} {n k : Nat} (hn : n ≤ 8)
    (same : v.toNat % 256 ^ n = w.toNat % 256 ^ n) (hk : k < n) :
    payloadByte v k = payloadByte w k := by
  have split : 256 ^ n = 256 ^ k * 256 ^ (n - k) := by
    rw [← Nat.pow_add, Nat.add_sub_cancel' hk.le]
  have digit (x : Nat) : x % 256 ^ n / 256 ^ k % 256 = x / 256 ^ k % 256 := by
    rw [split, Nat.mod_mul_right_div_self,
      Nat.mod_mod_of_dvd _ (dvd_pow_self 256 (Nat.sub_ne_zero_of_lt hk))]
  apply UInt8.toNat_inj.1
  rw [toNat_payloadByte _ (by omega), toNat_payloadByte _ (by omega), ← digit, same, digit]

end BoardSim.Peripheral
