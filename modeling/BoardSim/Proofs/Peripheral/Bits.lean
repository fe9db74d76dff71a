import Mathlib.Algebra.Ring.Nat
import BoardSim.Register

/-!
# Bits of a word

When a word has one of the bits of a mask, what setting bits of a register twice or setting none of
them comes to, which registers a change of one leaves alone, and when a flag that firmware clears by
writing 0 is still set after a write.
-/

namespace BoardSim

theorem anySet_or (a b bits : UInt32) :
    anySet (a ||| b) bits = (anySet a bits || anySet b bits) := by
  have distrib : (a ||| b) &&& bits = a &&& bits ||| b &&& bits := by
    apply UInt32.eq_of_toBitVec_eq
    simp only [UInt32.toBitVec_and, UInt32.toBitVec_or, BitVec.and_or_distrib_right]
  rw [Bool.eq_iff_iff]
  simp [anySet, distrib, ← not_and_or]

theorem anySet_or_bits (word a b : UInt32) :
    anySet word (a ||| b) = (anySet word a || anySet word b) := by
  have flip (x y : UInt32) : anySet x y = anySet y x := by
    rw [anySet, UInt32.and_comm, anySet]
  rw [flip, anySet_or, flip a, flip b]

theorem anySet_and {keep bits : UInt32} (within : keep &&& bits = bits) (word : UInt32) :
    anySet (word &&& keep) bits = anySet word bits := by
  rw [anySet, UInt32.and_assoc, within, anySet]

theorem not_anySet_and {keep bits : UInt32} (apart : keep &&& bits = 0) (word : UInt32) :
    anySet (word &&& keep) bits = false := by
  rw [anySet, UInt32.and_assoc, apart, UInt32.and_zero]
  rfl

theorem or_and_not (word bits : UInt32) : (word ||| bits) &&& ~~~bits = word &&& ~~~bits := by
  apply UInt32.eq_of_toBitVec_eq
  simp [BitVec.and_or_distrib_right]

theorem ite_or_ite {p q r : Prop} [Decidable p] [Decidable q] [Decidable r] (mask : UInt32)
    (h : r ↔ p ∨ q) :
    (if r then mask else 0) = (if p then mask else 0) ||| (if q then mask else 0) := by
  by_cases hp : p <;> by_cases hq : q <;> simp [h, hp, hq]

/-- A mask of a single bit asks for that bit. -/
theorem anySet_of_twoPow {bit : UInt32} {i : Nat} (single : bit.toBitVec = BitVec.twoPow 32 i)
    (nonzero : bit ≠ 0) (word : UInt32) : anySet word bit = word.toBitVec.getLsbD i := by
  have asked : word &&& bit = if word.toBitVec.getLsbD i then bit else 0 := by
    apply UInt32.eq_of_toBitVec_eq
    rw [UInt32.toBitVec_and, single, BitVec.and_twoPow, ← single]
    split <;> rfl
  rw [anySet, asked]
  split <;> simp_all

theorem toNat_succ_toUInt64 (word : UInt32) : (word.toUInt64 + 1).toNat = word.toNat + 1 := by
  have small := word.toNat_lt
  rw [UInt64.toNat_add, UInt32.toNat_toUInt64]
  exact Nat.mod_eq_of_lt (by simp only [UInt64.reduceToNat]; omega)

theorem toNat_add_eq_iff (a b : UInt64) :
    (a + b).toNat = a.toNat + b.toNat ↔ a.toNat + b.toNat < UInt64.size := by
  rw [UInt64.toNat_add]
  exact Nat.mod_eq_iff_lt (by decide)

/-- What is left of a division by one more than a word fits into a word. -/
theorem toNat_mod_succ (value : UInt64) (word : UInt32) :
    (value % (word.toUInt64 + 1)).toUInt32.toNat = value.toNat % (word.toNat + 1) := by
  rw [UInt64.toNat_toUInt32, UInt64.toNat_mod, toNat_succ_toUInt64]
  refine Nat.mod_eq_of_lt (Nat.lt_of_le_of_lt ?_ word.toNat_lt)
  exact Nat.le_of_lt_succ (Nat.mod_lt _ (Nat.succ_pos _))

/-- A register of `n` bits stays one. -/
theorem Register.toNat_store_lt {r : Register} {held : UInt32} {n : Nat}
    (writable : r.writable.toNat < 2 ^ n) (narrow : held.toNat < 2 ^ n) (written : UInt32) :
    (r.store held written).toNat < 2 ^ n := by
  unfold store
  rw [UInt32.toNat_or, UInt32.toNat_and, UInt32.toNat_and]
  exact Nat.or_lt_two_pow (Nat.lt_of_le_of_lt Nat.and_le_left narrow)
    (Nat.lt_of_le_of_lt Nat.and_le_right writable)

namespace RegisterFile

variable {layout : Layout} (file : RegisterFile layout) (i : Nat)

theorem get_setBits_ne {j : Nat} (other : i ≠ j) (mask : UInt32) :
    (file.setBits i mask).get j = file.get j := get_set_ne _ other _

theorem get_clearBits_ne {j : Nat} (other : i ≠ j) (mask : UInt32) :
    (file.clearBits i mask).get j = file.get j := get_set_ne _ other _

theorem get_store_ne {j : Nat} (other : i ≠ j) (written : UInt32) :
    (file.store i written).get j = file.get j := get_set_ne _ other _

theorem setBits_zero : file.setBits i 0 = file := by
  refine ext_get fun j hj => ?_
  by_cases same : i = j
  · rw [← same, get_setBits _ (same ▸ hj), UInt32.or_zero]
  · exact get_set_ne _ same _

theorem setBits_setBits (a b : UInt32) :
    (file.setBits i a).setBits i b = file.setBits i (a ||| b) := by
  refine ext_get fun j hj => ?_
  by_cases same : i = j
  · subst same
    rw [get_setBits _ hj, get_setBits _ hj, get_setBits _ hj, UInt32.or_assoc]
  · exact (get_set_ne _ same _).trans ((get_set_ne _ same _).trans (get_set_ne _ same _).symm)

theorem clearBits_clearBits (mask : UInt32) :
    (file.clearBits i mask).clearBits i mask = file.clearBits i mask := by
  refine ext_get fun j hj => ?_
  by_cases same : i = j
  · subst same
    rw [get_clearBits _ hj, get_clearBits _ hj, UInt32.and_assoc, UInt32.and_self]
  · exact get_set_ne _ same _

/-- A flag that a written 0 clears. -/
theorem anySet_store_clearZeros {i k : Nat} (inside : i < layout.length)
    (action : layout[i].onWrite = .clearZeros) {bit : UInt32}
    (single : bit.toBitVec = BitVec.twoPow 32 k) (nonzero : bit ≠ 0)
    (writable : layout[i].writable &&& bit = bit) (word : UInt32) :
    anySet ((file.store i word).get i) bit = (anySet (file.get i) bit && anySet word bit) := by
  have fixed : ~~~layout[i].writable &&& bit = 0 := by
    rw [← writable, ← UInt32.and_assoc, UInt32.not_and_self, UInt32.zero_and]
  rw [get_store _ inside, Register.store, Register.combine, action, anySet_or,
    not_anySet_and fixed, anySet_and writable, Bool.false_or]
  simp only [anySet_of_twoPow single nonzero, UInt32.toBitVec_and, BitVec.getLsbD_and]

theorem toNat_get_store_lt (written : UInt32) {j : Nat} (inside : j < layout.length)
    (writable : layout[j].writable.toNat < 65536) (narrow : (file.get j).toNat < 65536) :
    ((file.store i written).get j).toNat < 65536 := by
  by_cases same : i = j
  · subst same
    rw [get_store _ inside]
    exact Register.toNat_store_lt (n := 16) writable narrow written
  · rwa [get_store_ne _ _ same]

theorem set_comm {i j : Nat} (other : i ≠ j) (a b : UInt32) :
    (file.set i a).set j b = (file.set j b).set i a := by
  refine ext_get fun k hk => ?_
  by_cases first : i = k
  · subst first
    rw [get_set_ne _ (Ne.symm other), get_set _ hk, get_set _ hk]
  · rw [get_set_ne _ first]
    by_cases second : j = k
    · rw [second, get_set _ hk, get_set _ hk]
    · rw [get_set_ne _ second, get_set_ne _ second, get_set_ne _ first]

end RegisterFile

end BoardSim
