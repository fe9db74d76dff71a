import BoardSim.Proofs.Peripheral.Payload

/-!
# Lanes of a word

Words, payloads and lane masks bit by bit, and the bytes they are made of. A write to some lanes of
a register acts on each byte by itself: `getLsbD_store` and `getLsbD_store_mergeLanes` say it for
one bit, `WriteAction.byte` is the same action on a byte.
-/

namespace BoardSim

theorem word_ext {a b : UInt32}
    (h : ∀ k < 32, a.toBitVec.getLsbD k = b.toBitVec.getLsbD k) : a = b :=
  UInt32.eq_of_toBitVec_eq (BitVec.eq_of_getLsbD_eq h)

/-- The byte that a write of `written` leaves where `held` was. -/
def WriteAction.byte (action : WriteAction) (held written writable : UInt8) : UInt8 :=
  match action with
  | .replace => (held &&& ~~~writable) ||| (written &&& writable)
  | .clearOnes => held &&& ~~~(written &&& writable)
  | .clearZeros => held &&& (written ||| ~~~writable)

def WriteAction.bit (action : WriteAction) (held written writable : Bool) : Bool :=
  match action with
  | .replace => (held && !writable) || (written && writable)
  | .clearOnes => held && !(written && writable)
  | .clearZeros => held && (written || !writable)

theorem WriteAction.getLsbD_byte (action : WriteAction) (held written writable : UInt8) {j : Nat}
    (h : j < 8) :
    (action.byte held written writable).toBitVec.getLsbD j =
      action.bit (held.toBitVec.getLsbD j) (written.toBitVec.getLsbD j)
        (writable.toBitVec.getLsbD j) := by
  cases action <;> simp [byte, bit, h]

namespace Register

theorem getLsbD_store (r : Register) (held written : UInt32) {b : Nat} (h : b < 32) :
    (r.store held written).toBitVec.getLsbD b =
      r.onWrite.bit (held.toBitVec.getLsbD b) (written.toBitVec.getLsbD b)
        (r.writable.toBitVec.getLsbD b) := by
  cases e : r.onWrite <;> simp [store, combine, e, h, WriteAction.bit] <;>
    grind

theorem getLsbD_store_mergeLanes (r : Register) (held mask lanes : UInt32) {b : Nat}
    (h : b < 32) :
    (r.store held (r.mergeLanes held mask lanes)).toBitVec.getLsbD b =
      if mask.toBitVec.getLsbD b then (r.store held lanes).toBitVec.getLsbD b
      else held.toBitVec.getLsbD b := by
  have inside := congrArg (·.toBitVec.getLsbD b) (r.store_mergeLanes_inside held mask lanes)
  have outside := congrArg (·.toBitVec.getLsbD b) (r.store_mergeLanes_outside held mask lanes)
  simp only [UInt32.toBitVec_and, UInt32.toBitVec_not, BitVec.getLsbD_and,
    BitVec.getLsbD_not] at inside outside
  cases e : mask.toBitVec.getLsbD b with
  | true => simpa [e] using inside
  | false =>
    rw [if_neg Bool.false_ne_true]
    simpa only [e, h, decide_true, Bool.not_false, Bool.and_true] using outside

theorem mergeLanes_all (r : Register) (held lanes : UInt32) :
    r.mergeLanes held 0xFFFFFFFF lanes = lanes := by
  have all : (0xFFFFFFFF : UInt32) = ~~~0 := rfl
  rw [mergeLanes, all]
  simp

/-- A register without rules of its own takes every bit as it is written. -/
theorem store_of_plain {r : Register}
    (plain : (r.writable, r.onWrite) = (0xFFFFFFFF, WriteAction.replace)) (held written : UInt32) :
    r.store held written = written := by
  obtain ⟨writable, onWrite⟩ := Prod.mk.inj plain
  have all : (0xFFFFFFFF : UInt32) = ~~~0 := rfl
  rw [store, combine, onWrite, writable, all]
  simp

/-- A register of 16 bits takes the low half of what is written. -/
theorem store_of_low {r : Register}
    (low : (r.writable, r.onWrite) = (0xFFFF, WriteAction.replace)) {held : UInt32}
    (narrow : held.toNat < 65536) (written : UInt32) :
    r.store held written = written &&& 0xFFFF := by
  obtain ⟨writable, onWrite⟩ := Prod.mk.inj low
  have mask : ∀ k < 32, (~~~0xFFFF : UInt32).toBitVec.getLsbD k = decide (16 ≤ k) := by decide
  have high : held &&& ~~~0xFFFF = 0 := by
    refine word_ext fun k inside => ?_
    rw [UInt32.toBitVec_and, BitVec.getLsbD_and, mask k inside]
    by_cases upper : 16 ≤ k
    · have clear : held.toNat.testBit k = false :=
        Nat.testBit_lt_two_pow (Nat.lt_of_lt_of_le narrow (Nat.pow_le_pow_right Nat.two_pos upper))
      rw [show held.toBitVec.getLsbD k = false from clear]
      simp
    · simp [upper]
  rw [store, combine, onWrite, writable, high, UInt32.zero_or]

theorem store_of_readOnly {r : Register} (fixed : r.writable = 0) (held written : UInt32) :
    r.store held written = held := by
  rw [store, fixed, UInt32.and_zero, UInt32.or_zero]
  simp

end Register

namespace Peripheral

def laneOf (word : UInt32) (k : Nat) : UInt8 := (word >>> UInt32.ofNat (8 * k)).toUInt8

theorem getLsbD_laneOf (word : UInt32) {k j : Nat} (hk : k < 4) (hj : j < 8) :
    (laneOf word k).toBitVec.getLsbD j = word.toBitVec.getLsbD (8 * k + j) := by
  have shift : 8 * k % 4294967296 % 32 = 8 * k := by omega
  simp [laneOf, hj, shift]

-- ---------------------------------------------------------------------------
-- Offsets and masks
-- ---------------------------------------------------------------------------

theorem wordOffset_eq (offset : UInt64) : wordOffset offset = (offset >>> 2) <<< 2 := by
  have high : ∀ i < 64, (~~~(3 : UInt64)).toBitVec.getLsbD i = decide (1 < i) := by decide
  apply UInt64.eq_of_toBitVec_eq
  apply BitVec.eq_of_getLsbD_eq
  intro i hi
  rw [wordOffset, UInt64.toBitVec_and, BitVec.getLsbD_and, high i hi]
  by_cases h : 1 < i
  · have low : ¬i ≤ 1 := by omega
    have back : 2 + (i - 2) = i := by omega
    simp [h, hi, low, back]
  · simp [h]

theorem toNat_wordOffset (offset : UInt64) : (wordOffset offset).toNat = offset.toNat / 4 * 4 := by
  have := offset.toNat_lt
  rw [wordOffset_eq, UInt64.toNat_shiftLeft, UInt64.toNat_shiftRight]
  simp [Nat.shiftLeft_eq, Nat.shiftRight_eq_div_pow]
  omega

theorem laneShift_eq (offset : UInt64) :
    laneShift offset = UInt32.ofNat (8 * (offset.toNat % 4)) := by
  apply UInt32.toNat_inj.1
  simp [laneShift]
  omega

theorem getLsbD_laneMask (offset : UInt64) {n b : Nat} (hn : 0 < n)
    (fits : offset.toNat % 4 + n ≤ 4) (hb : b < 32) :
    (laneMask offset n).toBitVec.getLsbD b =
      decide (8 * (offset.toNat % 4) ≤ b ∧ b < 8 * (offset.toNat % 4) + 8 * n) := by
  -- the mask depends on the first lane and the width alone, and there are ten such pairs
  have table : ∀ k < 4, ∀ n < 5, 0 < n → k + n ≤ 4 → ∀ b < 32,
      (if 4 ≤ n then (0xFFFFFFFF : UInt32)
        else ((1 <<< UInt32.ofNat (n * 8)) - 1) <<< UInt32.ofNat (8 * k)).toBitVec.getLsbD b =
        decide (8 * k ≤ b ∧ b < 8 * k + 8 * n) := by decide
  rw [laneMask, laneShift_eq]
  exact table (offset.toNat % 4) (by omega) n (by omega) hn fits b hb

theorem getLsbD_lanes (offset payload : UInt64) {b : Nat} (hb : b < 32) :
    (payload.toUInt32 <<< laneShift offset).toBitVec.getLsbD b =
      (decide (8 * (offset.toNat % 4) ≤ b) &&
        payload.toBitVec.getLsbD (b - 8 * (offset.toNat % 4))) := by
  have small : 8 * (offset.toNat % 4) < 32 := by omega
  have shift : 8 * (offset.toNat % 4) % 4294967296 % 32 = 8 * (offset.toNat % 4) := by omega
  rw [laneShift_eq]
  simp [shift, hb]
  grind

-- ---------------------------------------------------------------------------
-- Bytes
-- ---------------------------------------------------------------------------

/-- A write of some lanes of a register acts on each of its bytes. -/
theorem laneOf_store_mergeLanes (r : Register) (held : UInt32) (offset payload : UInt64)
    {n k : Nat} (hn : 0 < n) (fits : offset.toNat % 4 + n ≤ 4) (hk : k < 4) :
    laneOf (r.store held (r.mergeLanes held (laneMask offset n)
        (payload.toUInt32 <<< laneShift offset))) k =
      if offset.toNat % 4 ≤ k ∧ k < offset.toNat % 4 + n then
        r.onWrite.byte (laneOf held k) (payloadByte payload (k - offset.toNat % 4))
          (laneOf r.writable k)
      else laneOf held k := by
  apply byte_ext
  intro j hj
  have hb : 8 * k + j < 32 := by omega
  rw [getLsbD_laneOf _ hk hj, Register.getLsbD_store_mergeLanes _ _ _ _ hb,
    getLsbD_laneMask offset hn fits hb, Register.getLsbD_store _ _ _ hb, getLsbD_lanes _ _ hb]
  by_cases h : offset.toNat % 4 ≤ k ∧ k < offset.toNat % 4 + n
  · have inside : 8 * (offset.toNat % 4) ≤ 8 * k + j ∧
        8 * k + j < 8 * (offset.toNat % 4) + 8 * n := by omega
    have from_payload : 8 * k + j - 8 * (offset.toNat % 4) = 8 * (k - offset.toNat % 4) + j := by
      omega
    rw [if_pos h, WriteAction.getLsbD_byte _ _ _ _ hj, getLsbD_laneOf _ hk hj,
      getLsbD_laneOf _ hk hj, getLsbD_payloadByte _ (by omega) hj, from_payload]
    simp [inside]
  · have outside : ¬(8 * (offset.toNat % 4) ≤ 8 * k + j ∧
        8 * k + j < 8 * (offset.toNat % 4) + 8 * n) := by omega
    rw [if_neg h, getLsbD_laneOf _ hk hj]
    simp [outside]

/-- The lanes that an access covers come from the payload's low bytes. -/
theorem lanes_and_laneMask_congr {v w : UInt64} (offset : UInt64) {n : Nat} (hn : 0 < n)
    (fits : offset.toNat % 4 + n ≤ 4) (same : ∀ k < n, payloadByte v k = payloadByte w k) :
    (v.toUInt32 <<< laneShift offset) &&& laneMask offset n =
      (w.toUInt32 <<< laneShift offset) &&& laneMask offset n := by
  refine word_ext fun b hb => ?_
  rw [UInt32.toBitVec_and, UInt32.toBitVec_and, BitVec.getLsbD_and, BitVec.getLsbD_and,
    getLsbD_lanes _ _ hb, getLsbD_lanes _ _ hb, getLsbD_laneMask offset hn fits hb]
  by_cases h : 8 * (offset.toNat % 4) ≤ b ∧ b < 8 * (offset.toNat % 4) + 8 * n
  · obtain ⟨c, hc⟩ : ∃ c, c = b - 8 * (offset.toNat % 4) := ⟨_, rfl⟩
    have bit := congrArg (·.toBitVec.getLsbD (c % 8)) (same (c / 8) (by omega))
    simp only [getLsbD_payloadByte _ (show c / 8 < 8 by omega) (show c % 8 < 8 by omega),
      Nat.div_add_mod] at bit
    rw [← hc, bit]
  · simp [h]

theorem getLsbD_covered (word : UInt32) (offset : UInt64) {n : Nat} (hn : 0 < n)
    (fits : offset.toNat % 4 + n ≤ 4) (b : Nat) :
    ((word &&& laneMask offset n) >>> laneShift offset).toUInt64.toBitVec.getLsbD b =
      (decide (b < 8 * n) && word.toBitVec.getLsbD (8 * (offset.toNat % 4) + b)) := by
  have shift : ((laneShift offset).toBitVec % 32).toNat = 8 * (offset.toNat % 4) := by
    rw [laneShift_eq]
    simp
    omega
  have unfolded : ((word &&& laneMask offset n) >>> laneShift offset).toUInt64.toBitVec.getLsbD b =
      (word.toBitVec.getLsbD (8 * (offset.toNat % 4) + b) &&
        (laneMask offset n).toBitVec.getLsbD (8 * (offset.toNat % 4) + b)) := by
    rw [UInt32.toBitVec_toUInt64, UInt32.toBitVec_shiftRight, UInt32.toBitVec_and,
      BitVec.getLsbD_setWidth, BitVec.ushiftRight_eq', BitVec.getLsbD_ushiftRight, shift,
      BitVec.getLsbD_and]
    by_cases hb : b < 64
    · simp [hb]
    · rw [BitVec.getLsbD_of_ge word.toBitVec _ (by omega)]
      simp
  rw [unfolded, Bool.and_comm]
  by_cases hb : 8 * (offset.toNat % 4) + b < 32
  · rw [getLsbD_laneMask offset hn fits hb]
    congr 2
    apply propext
    omega
  · have outside : ¬b < 8 * n := by omega
    rw [BitVec.getLsbD_of_ge _ _ (Nat.le_of_not_lt hb)]
    simp [outside]

theorem payloadByte_covered (word : UInt32) (offset : UInt64) {n k : Nat} (hn : 0 < n)
    (fits : offset.toNat % 4 + n ≤ 4) (hk : k < 8) :
    payloadByte ((word &&& laneMask offset n) >>> laneShift offset).toUInt64 k =
      if k < n then laneOf word (offset.toNat % 4 + k) else 0 := by
  apply byte_ext
  intro j hj
  rw [getLsbD_payloadByte _ hk hj, getLsbD_covered _ _ hn fits]
  by_cases h : k < n
  · have inside : 8 * k + j < 8 * n := by omega
    have bit : 8 * (offset.toNat % 4) + (8 * k + j) = 8 * (offset.toNat % 4 + k) + j := by omega
    rw [if_pos h, getLsbD_laneOf _ (by omega) hj, bit]
    simp [inside]
  · have outside : ¬8 * k + j < 8 * n := by omega
    rw [if_neg h]
    simp [outside]

end Peripheral

end BoardSim
