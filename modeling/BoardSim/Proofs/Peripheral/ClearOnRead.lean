import BoardSim.Peripheral.SysTick
import BoardSim.Proofs.Peripheral.Extent

/-!
# Bits that a read clears

A register read clears the bits of its mask in the whole register, whichever lanes the access wants.
So an access clears these bits in every register it reaches, and its answer shows one of them if the
byte that has it is covered and no byte before it in the same word was read by itself. Reads of
whole aligned words show all that they clear; others may lose a bit that nobody has seen
(`readContract`).
-/

namespace BoardSim.Peripheral

structure DefaultReads (δ : Type) [Peripheral δ] : Prop where
  fetch_eq : ∀ (d : δ) i, fetch d i = (held d i, d)
  layout_put : ∀ (d : δ) i word, layout (put d i word) = layout d
  held_put : ∀ (d : δ) {i} word, i < (layout d).length → held (put d i word) i = word
  held_put_ne : ∀ (d : δ) {i j} word, i ≠ j → held (put d i word) j = held d j

variable {δ : Type} [Peripheral δ]

theorem DefaultReads.steady (reads : DefaultReads δ) : SteadyReads δ where
  fetch d i := by rw [reads.fetch_eq]
  put := reads.layout_put

-- ---------------------------------------------------------------------------
-- One register
-- ---------------------------------------------------------------------------

def clearsBit (d : δ) (i b : Nat) : Bool :=
  match ((layout d)[i]?).map Register.onRead with
  | some (.clear mask) => mask.toBitVec.getLsbD b
  | _ => false

def bitOf (d : δ) (i b : Nat) : Bool := (held d i).toBitVec.getLsbD b

theorem clearsBit_congr {d e : δ} (same : layout e = layout d) (i b : Nat) :
    clearsBit e i b = clearsBit d i b := by
  rw [clearsBit, same, clearsBit]

section
variable (reads : DefaultReads δ) (d : δ)
include reads

theorem bitOf_settle (i b : Nat) :
    bitOf (settle d i) i b = (bitOf d i b && !clearsBit d i b) := by
  unfold settle clearsBit
  cases action : ((layout d)[i]?).map Register.onRead with
  | none => simp
  | some act =>
    cases act with
    | keep => simp
    | clear mask =>
      obtain ⟨r, there, -⟩ := Option.map_eq_some_iff.1 action
      have inside : i < (layout d).length := (List.getElem?_eq_some_iff.1 there).1
      simp only
      rw [bitOf, reads.held_put _ _ inside, bitOf, UInt32.toBitVec_and, UInt32.toBitVec_not,
        BitVec.getLsbD_and, BitVec.getLsbD_not]
      by_cases small : b < 32
      · simp [small]
      · simp [BitVec.getLsbD_of_ge _ b (Nat.le_of_not_lt small)]

theorem bitOf_settle_ne {i j : Nat} (other : i ≠ j) (b : Nat) :
    bitOf (settle d i) j b = bitOf d j b := by
  unfold settle
  split
  · rw [bitOf, reads.held_put_ne _ _ other, bitOf]
  · rfl

theorem fst_read {word : UInt64} {i : Nat} (found : (layout d).indexOf? word = some i) :
    (read d word).1 = held d i := by
  simp only [read, found, reads.fetch_eq]

theorem bitOf_read (word : UInt64) (i b : Nat) : bitOf (read d word).2 i b = true ↔
    bitOf d i b = true ∧ ¬((layout d).indexOf? word = some i ∧ clearsBit d i b = true) := by
  unfold read
  cases found : (layout d).indexOf? word with
  | none => simp
  | some j =>
    simp only [reads.fetch_eq]
    by_cases same : j = i
    · subst same
      rw [bitOf_settle reads]
      simp
    · rw [bitOf_settle_ne reads d same]
      simp [same]

-- ---------------------------------------------------------------------------
-- The pieces of an access
-- ---------------------------------------------------------------------------

variable (offset : UInt64)

theorem bitOf_foldl (l : List Piece) (i b : Nat) :
    bitOf (l.foldl (loadPiece offset) d) i b = true ↔ bitOf d i b = true ∧
      ¬((∃ p ∈ l, (layout d).indexOf? (wordOffset (offset + UInt64.ofNat p.first)) = some i) ∧
        clearsBit d i b = true) := by
  induction l generalizing d with
  | nil => simp
  | cons p rest ih =>
    have same : layout (loadPiece offset d p) = layout d := reads.steady.layout_read d _
    rw [List.foldl_cons, ih, same, clearsBit_congr same, loadPiece, bitOf_read reads]
    by_cases set : bitOf d i b = true <;> by_cases clears : clearsBit d i b = true <;>
      simp [set, clears]

end

-- ---------------------------------------------------------------------------
-- What an answer shows
-- ---------------------------------------------------------------------------

section
variable (d : δ) (offset : UInt64) (size : AccessSize)

def Reaches (i : Nat) : Prop :=
  ∃ k < size.bytes, (layout d).indexOf? (wordOffset (offset + UInt64.ofNat k)) = some i

/-- Byte `k` of the access is the one of register `i` that has bit `b`. -/
def Lies (i b k : Nat) : Prop :=
  (layout d).indexOf? (wordOffset (offset + UInt64.ofNat k)) = some i ∧
    (offset + UInt64.ofNat k).toNat % 4 = b / 8

/-- Byte `k` of the access is read by itself and is not the first one of its word. -/
def Late (k : Nat) : Prop :=
  ¬(size = .double ∧ offset % 4 = 0) ∧ ¬(offset % 4).toNat + size.bytes ≤ 4 ∧ 0 < k ∧
    (offset + UInt64.ofNat k).toNat % 4 ≠ 0

end

def shows (answer : UInt64) (b k : Nat) : Bool := (payloadByte answer k).toBitVec.getLsbD (b % 8)

theorem wordOffset_add_eq_iff (offset : UInt64) {a b : Nat} (le : a ≤ b) (small : b < 8) :
    wordOffset (offset + UInt64.ofNat a) = wordOffset (offset + UInt64.ofNat b) ↔
      (offset.toNat + a) % 4 + (b - a) < 4 := by
  have bound := offset.toNat_lt
  rw [wordOffset_eq_iff, UInt64.toNat_add, UInt64.toNat_add, UInt64.toNat_ofNat',
    UInt64.toNat_ofNat']
  omega

theorem exists_earlier_iff {offset : UInt64} {size : AccessSize} {k : Nat}
    (inside : k < size.bytes) :
    (∃ p ∈ earlier offset size k, wordOffset (offset + UInt64.ofNat p.first) =
      wordOffset (offset + UInt64.ofNat k)) ↔ Late offset size k := by
  have lane := toNat_mod_four offset
  have short : size.bytes ≤ 8 := by cases size <;> decide
  unfold earlier pieces Late
  split
  · next wide =>
    have whole := congrArg UInt64.toNat wide.2
    rw [lane, UInt64.toNat_zero] at whole
    refine iff_of_false ?_ fun late => late.1 wide
    rintro ⟨p, mem, same⟩
    rw [earlier_pair] at mem
    split at mem
    · exact absurd mem List.not_mem_nil
    · rw [if_pos (by omega)] at mem
      obtain rfl := List.mem_singleton.1 mem
      rw [wordOffset_add_eq_iff offset (Nat.zero_le k) (by omega)] at same
      omega
  · next narrow =>
    split
    · next single =>
      have none :
          ([⟨0, size.bytes⟩] : List Piece).filter (fun p => p.first + p.count ≤ k) = [] := by
        simpa using inside
      rw [none]
      exact iff_of_false (by simp) fun late => late.2.1 single
    · next straddles =>
      rw [earlier_bytes (Nat.le_of_lt inside), toNat_add_mod]
      simp only [narrow, straddles, not_false_eq_true, true_and, List.mem_map, List.mem_range]
      constructor
      · rintro ⟨_, ⟨j, before, rfl⟩, same⟩
        rw [wordOffset_add_eq_iff offset (Nat.le_of_lt before) (by omega)] at same
        omega
      · rintro ⟨positive, late⟩
        refine ⟨_, ⟨k - 1, by omega, rfl⟩, ?_⟩
        rw [wordOffset_add_eq_iff offset (Nat.sub_le k 1) (by omega)]
        omega

-- ---------------------------------------------------------------------------
-- The contract
-- ---------------------------------------------------------------------------

/-- A read loses no clear-on-read bit that its answer does not show. -/
structure NothingUnseen (d : δ) (offset : UInt64) (size : AccessSize) : Prop where
  seen : ∀ i b, clearsBit d i b = true → bitOf d i b = true →
    bitOf (load d offset size).2 i b = false →
      ∃ k < size.bytes, Lies d offset i b k ∧ shows (load d offset size).1 b k = true
  covered : ∀ i b k, k < size.bytes → clearsBit d i b = true → bitOf d i b = true →
    Lies d offset i b k → shows (load d offset size).1 b k = true

structure ReadContract (d : δ) (offset : UInt64) (size : AccessSize) : Prop where
  cleared : ∀ i b, bitOf (load d offset size).2 i b = true ↔
    bitOf d i b = true ∧ ¬(Reaches d offset size i ∧ clearsBit d i b = true)
  /-- A bit that is covered is shown unless an earlier byte of the access has cleared it. -/
  shown : ∀ i b k, k < size.bytes → Lies d offset i b k →
    (shows (load d offset size).1 b k = true ↔
      bitOf d i b = true ∧ ¬(Late offset size k ∧ clearsBit d i b = true))
  nothingUnseen : NothingUnseen d offset size ↔
    ∀ i b, clearsBit d i b = true → bitOf d i b = true → Reaches d offset size i →
      ∃ k < size.bytes, Lies d offset i b k ∧ ¬Late offset size k
  words : offset % 4 = 0 → 4 ≤ size.bytes → NothingUnseen d offset size

section
variable {d : δ} {offset : UInt64} {size : AccessSize} {i b k k' : Nat}

/-- Two bytes of an access are not the same byte of a register. -/
theorem Lies.unique (lies : Lies d offset i b k) (lies' : Lies d offset i b k') (small : k < 8)
    (small' : k' < 8) : k = k' := by
  have word := Layout.offset_of_indexOf? lies.1
  rw [Layout.offset_of_indexOf? lies'.1, Option.some.injEq, wordOffset_eq_iff] at word
  have lane := lies.2.trans lies'.2.symm
  simp only [UInt64.toNat_add, UInt64.toNat_ofNat'] at word lane
  omega

/-- An aligned access of four bytes or more covers every byte of the registers it reaches. -/
theorem Reaches.exists_lies (reaches : Reaches d offset size i) (aligned : offset % 4 = 0)
    (wide : 4 ≤ size.bytes) (small : b < 32) : ∃ k < size.bytes, Lies d offset i b k := by
  obtain ⟨k, inside, found⟩ := reaches
  have lane := toNat_mod_four offset
  rw [aligned, UInt64.toNat_zero] at lane
  have bound := offset.toNat_lt
  have multiple : size.bytes = 4 ∨ size.bytes = 8 := by cases size <;> simp_all [AccessSize.bytes]
  refine ⟨k / 4 * 4 + b / 8, by omega, ?_, ?_⟩
  · rw [← found]
    congr 1
    rw [wordOffset_eq_iff, UInt64.toNat_add, UInt64.toNat_add, UInt64.toNat_ofNat',
      UInt64.toNat_ofNat']
    omega
  · rw [toNat_add_mod]
    omega

theorem not_late_of_aligned (aligned : offset % 4 = 0) (wide : 4 ≤ size.bytes) :
    ¬Late offset size k := by
  rintro ⟨narrow, straddles, -⟩
  cases size with
  | byte => exact absurd wide (by decide)
  | half => exact absurd wide (by decide)
  | word => exact straddles (by rw [aligned]; decide)
  | double => exact narrow ⟨rfl, aligned⟩

end

section
variable (reads : DefaultReads δ) (d : δ) (offset : UInt64) (size : AccessSize)
include reads

theorem bitOf_load (i b : Nat) : bitOf (load d offset size).2 i b = true ↔
    bitOf d i b = true ∧ ¬(Reaches d offset size i ∧ clearsBit d i b = true) := by
  rw [snd_load_eq_foldl, bitOf_foldl reads,
    exists_piece_word (P := fun word => (layout d).indexOf? word = some i), Reaches]

theorem shows_load {i b k : Nat} (inside : k < size.bytes) (lies : Lies d offset i b k) :
    shows (load d offset size).1 b k = true ↔
      bitOf d i b = true ∧ ¬(Late offset size k ∧ clearsBit d i b = true) := by
  obtain ⟨found, lane⟩ := lies
  have short : size.bytes ≤ 8 := by cases size <;> decide
  have small : b / 8 < 4 := by omega
  have same : layout (atByte d offset size k) = layout d := reads.steady.layout_foldl d offset _
  -- registers of different words are different registers
  have cleared : (∃ p ∈ earlier offset size k,
      (layout d).indexOf? (wordOffset (offset + UInt64.ofNat p.first)) = some i) ↔
        Late offset size k := by
    rw [← exists_earlier_iff inside]
    refine exists_congr fun p => and_congr_right fun _ =>
      ⟨fun found' => ?_, fun word => word ▸ found⟩
    have word := Layout.offset_of_indexOf? found'
    rw [Layout.offset_of_indexOf? found] at word
    exact (Option.some.inj word).symm
  have bit : shows (load d offset size).1 b k = bitOf (atByte d offset size k) i b := by
    rw [shows, payloadByte_load d offset size (by omega), if_pos inside,
      fst_read reads _ (same ▸ found), lane, getLsbD_laneOf _ small (by omega), Nat.div_add_mod]
    rfl
  rw [bit, atByte, bitOf_foldl reads, cleared]

theorem nothingUnseen_iff : NothingUnseen d offset size ↔
    ∀ i b, clearsBit d i b = true → bitOf d i b = true → Reaches d offset size i →
      ∃ k < size.bytes, Lies d offset i b k ∧ ¬Late offset size k := by
  have short : size.bytes ≤ 8 := by cases size <;> decide
  constructor
  · intro nothing i b clears set reaches
    have lost : bitOf (load d offset size).2 i b = false := by
      rw [Bool.eq_false_iff, ne_eq, bitOf_load reads]
      exact fun kept => kept.2 ⟨reaches, clears⟩
    obtain ⟨k, inside, lies, shown⟩ := nothing.seen i b clears set lost
    have fresh := ((shows_load reads d offset size inside lies).1 shown).2
    exact ⟨k, inside, lies, fun late => fresh ⟨late, clears⟩⟩
  · intro fresh
    constructor
    · intro i b clears set lost
      have reaches : Reaches d offset size i := by
        refine Classical.byContradiction fun apart => ?_
        have kept := (bitOf_load reads d offset size i b).2 ⟨set, fun h => apart h.1⟩
        exact Bool.false_ne_true (lost.symm.trans kept)
      obtain ⟨k, inside, lies, early⟩ := fresh i b clears set reaches
      exact ⟨k, inside, lies, (shows_load reads d offset size inside lies).2
        ⟨set, fun h => early h.1⟩⟩
    · intro i b k inside clears set lies
      obtain ⟨k', inside', lies', early⟩ := fresh i b clears set ⟨k, inside, lies.1⟩
      obtain rfl := lies.unique lies' (by omega) (by omega)
      exact (shows_load reads d offset size inside lies).2 ⟨set, fun h => early h.1⟩

theorem readContract : ReadContract d offset size where
  cleared := bitOf_load reads d offset size
  shown _ _ _ := shows_load reads d offset size
  nothingUnseen := nothingUnseen_iff reads d offset size
  words aligned wide := by
    refine (nothingUnseen_iff reads d offset size).2 fun i b _ set reaches => ?_
    have small : b < 32 := by
      refine Nat.lt_of_not_le fun large => ?_
      rw [bitOf, BitVec.getLsbD_of_ge _ b large] at set
      exact Bool.false_ne_true set
    obtain ⟨k, inside, lies⟩ := reaches.exists_lies aligned wide small
    exact ⟨k, inside, lies, not_late_of_aligned aligned wide⟩

end

theorem sysTick_defaultReads : DefaultReads SysTick where
  fetch_eq _ _ := rfl
  layout_put _ _ _ := rfl
  held_put s _ word inside := s.regs.get_set inside word
  held_put_ne s _ _ word other := s.regs.get_set_ne other word

def justReloaded : SysTick :=
  let loaded := (access (SysTick.withClock 1000) 0x04 .word .write 5).2
  ((access loaded 0x00 .word .write SysTick.enable.toUInt64).2.advance 1000000).1

theorem readContract_justReloaded :
    bitOf justReloaded SysTick.csr 16 = true ∧ ReadContract justReloaded 0 .word ∧
      NothingUnseen justReloaded 0 .word := by
  have contract := readContract sysTick_defaultReads justReloaded 0 .word
  exact ⟨by decide +kernel, contract, contract.words (by decide) (by decide)⟩

/-- `COUNTFLAG` lies in the second of the four bytes from offset 1 on. Reading the first one, which
is read by itself, clears it. -/
theorem not_nothingUnseen_of_straddling :
    Lies justReloaded 1 SysTick.csr 16 1 ∧ bitOf justReloaded SysTick.csr 16 = true ∧
      (access justReloaded 1 .word .read 0).1 = 0x05000000 ∧
      bitOf (access justReloaded 1 .word .read 0).2 SysTick.csr 16 = false ∧
      ¬NothingUnseen justReloaded 1 .word := by
  have lies : Lies justReloaded 1 SysTick.csr 16 1 := ⟨by decide, by decide⟩
  have set : bitOf justReloaded SysTick.csr 16 = true := by decide +kernel
  refine ⟨lies, set, by decide +kernel, by decide +kernel, fun nothing => ?_⟩
  have shown := nothing.covered SysTick.csr 16 1 (by decide) (by decide +kernel) set lies
  revert shown
  decide +kernel

end BoardSim.Peripheral
