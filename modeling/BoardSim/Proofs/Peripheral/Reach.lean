import BoardSim.Proofs.Peripheral.Access
import BoardSim.Proofs.Peripheral.Lanes

/-!
# The words an access reaches

An access reads and writes the registers of the words it covers a byte of, and no others: what the
operations on these words keep, the access keeps (`KeptAt.access`). An aligned access of four bytes
is the one operation on its word.
-/

namespace BoardSim.Peripheral

variable {δ : Type} [Peripheral δ]

def Touches (offset : UInt64) (size : AccessSize) (word : UInt64) : Prop :=
  ∃ k < size.bytes, wordOffset (offset + UInt64.ofNat k) = word

/-- Reads and writes at the offsets in `words` keep `P`. -/
structure KeptAt (words : UInt64 → Prop) (P : δ → Prop) : Prop where
  read : ∀ d offset, words offset → P d → P (read d offset).2
  write : ∀ d offset word, words offset → P d → P (write d offset word)

namespace KeptAt

variable {words : UInt64 → Prop} {P : δ → Prop} {d : δ} {offset : UInt64}

theorem loadWord (h : KeptAt words P) (covered : words (wordOffset offset)) (hd : P d)
    (bytes : Nat) : P (loadWord d offset bytes).2 :=
  h.read _ _ covered hd

theorem storeWord (h : KeptAt words P) (covered : words (wordOffset offset)) (hd : P d)
    (bytes : Nat) (payload : UInt64) : P (storeWord d offset bytes payload) := by
  simp only [Peripheral.storeWord]
  split
  · exact h.write _ _ _ covered hd
  · split
    · exact hd
    · exact h.write _ _ _ covered hd

theorem loadBytes (h : KeptAt words P) {n : Nat}
    (covered : ∀ k < n, words (wordOffset (offset + UInt64.ofNat k))) (hd : P d) :
    P (loadBytes d offset n).2 := by
  induction n with
  | zero => exact hd
  | succ n ih =>
    have low := ih fun k hk => covered k (Nat.lt_succ_of_lt hk)
    exact h.loadWord (covered n n.lt_succ_self) low 1

theorem storeBytes (h : KeptAt words P) {n : Nat}
    (covered : ∀ k < n, words (wordOffset (offset + UInt64.ofNat k))) (hd : P d)
    (payload : UInt64) : P (storeBytes d offset payload n) := by
  induction n with
  | zero => exact hd
  | succ n ih =>
    have low := ih fun k hk => covered k (Nat.lt_succ_of_lt hk)
    exact h.storeWord (covered n n.lt_succ_self) low 1 _

theorem access {size : AccessSize} (h : KeptAt (Touches offset size) P) (hd : P d)
    (direction : Direction) (payload : UInt64) : P (access d offset size direction payload).2 := by
  have covered (k : Nat) (hk : k < size.bytes) :
      Touches offset size (wordOffset (offset + UInt64.ofNat k)) := ⟨k, hk, rfl⟩
  have first : Touches offset size (wordOffset offset) := by
    simpa using covered 0 size.bytes_pos
  have second (double : size = .double) : Touches offset size (wordOffset (offset + 4)) :=
    covered 4 (by subst double; decide)
  cases direction with
  | read =>
    simp only [Peripheral.access, load]
    split
    · next wide => exact h.loadWord (second wide.1) (h.loadWord first hd 4) 4
    · split
      · exact h.loadWord first hd _
      · exact h.loadBytes covered hd
  | write =>
    simp only [Peripheral.access, store]
    split
    · next wide => exact h.storeWord (second wide.1) (h.storeWord first hd _ _) _ _
    · split
      · exact h.storeWord first hd _ _
      · exact h.storeBytes covered hd payload

end KeptAt

-- ---------------------------------------------------------------------------
-- One word
-- ---------------------------------------------------------------------------

section
variable {offset : UInt64} (aligned : offset % 4 = 0)
include aligned

theorem wordOffset_of_aligned : wordOffset offset = offset := by
  apply UInt64.toNat_inj.1
  have remainder := congrArg UInt64.toNat aligned
  rw [UInt64.toNat_mod] at remainder
  rw [toNat_wordOffset]
  exact Nat.div_mul_cancel (Nat.dvd_of_mod_eq_zero remainder)

theorem laneShift_of_aligned : laneShift offset = 0 := by
  rw [laneShift, aligned]
  rfl

theorem inside_of_aligned : (offset % 4).toNat + AccessSize.word.bytes ≤ 4 := by
  rw [aligned]
  decide

theorem access_read_word (d : δ) (payload : UInt64) :
    access d offset .word .read payload = ((read d offset).1.toUInt64, (read d offset).2) := by
  have whole (word : UInt32) : word &&& 0xFFFFFFFF = word := UInt32.and_neg_one
  rw [access, load, if_neg (fun wide => nomatch wide.1), if_pos (inside_of_aligned aligned),
    loadWord, wordOffset_of_aligned aligned, laneShift_of_aligned aligned, laneMask,
    if_pos (show 4 ≤ AccessSize.word.bytes from le_rfl)]
  simp only [whole, UInt32.shiftRight_zero]

theorem access_write_word (d : δ) (payload : UInt64) :
    access d offset .word .write payload = (0, write d offset payload.toUInt32) := by
  rw [access, store, if_neg (fun wide => nomatch wide.1), if_pos (inside_of_aligned aligned),
    storeWord, laneMask, if_pos (show 4 ≤ AccessSize.word.bytes from le_rfl), if_pos rfl,
    wordOffset_of_aligned aligned, laneShift_of_aligned aligned, UInt32.shiftLeft_zero]

end

/-- A write inside one word is one register write, of the word with its other lanes filled. -/
theorem storeWord_of_some {d : δ} {offset : UInt64} {i : Nat} {r : Register}
    (found : (layout d).indexOf? (wordOffset offset) = some i) (there : (layout d)[i]? = some r)
    (bytes : Nat) (payload : UInt64) :
    storeWord d offset bytes payload = commit d i
      (r.mergeLanes (held d i) (laneMask offset bytes)
        (payload.toUInt32 <<< laneShift offset)) := by
  rw [storeWord]
  by_cases full : laneMask offset bytes = 0xFFFFFFFF
  · simp only [full, if_true, write, found, Register.mergeLanes_all]
  · simp only [full, if_false, write, found, Layout.onRegister, there]

theorem access_write_inside {d : δ} {offset : UInt64} {size : AccessSize}
    (inside : (offset % 4).toNat + size.bytes ≤ 4) {i : Nat} {r : Register}
    (found : (layout d).indexOf? (wordOffset offset) = some i) (there : (layout d)[i]? = some r)
    (payload : UInt64) :
    access d offset size .write payload = (0, commit d i
      (r.mergeLanes (held d i) (laneMask offset size.bytes)
        (payload.toUInt32 <<< laneShift offset))) := by
  have single : size ≠ .double := by
    rintro rfl
    have bytes : AccessSize.double.bytes = 8 := rfl
    omega
  rw [access, store, if_neg (fun wide => single wide.1), if_pos inside,
    storeWord_of_some found there]

end BoardSim.Peripheral
