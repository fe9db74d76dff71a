import BoardSim.Proofs.Peripheral.ByteMemory
import BoardSim.Proofs.Peripheral.Reach

/-!
# The pieces of an access

An access is made of pieces, each inside one word, and every byte belongs to one of them. A load and
a store are folds over the pieces (`snd_load_eq_foldl`, `store_eq_foldl`), and a byte of the answer
comes from the word that its piece reads, in the state that the pieces before it leave
(`payloadByte_load`).
-/

namespace BoardSim.Peripheral

/-- The bytes of an access from the `first` one on, counted from 0. -/
structure Piece where
  first : Nat
  count : Nat
deriving DecidableEq

def Piece.Covers (p : Piece) (k : Nat) : Prop := p.first ≤ k ∧ k < p.first + p.count

def pieces (offset : UInt64) (size : AccessSize) : List Piece :=
  if size = .double ∧ offset % 4 = 0 then [⟨0, 4⟩, ⟨4, 4⟩]
  else if (offset % 4).toNat + size.bytes ≤ 4 then [⟨0, size.bytes⟩]
  else (List.range size.bytes).map fun k => ⟨k, 1⟩

variable {offset : UInt64} {size : AccessSize} {p : Piece} {k : Nat}

theorem toNat_add_mod (offset : UInt64) (k : Nat) :
    (offset + UInt64.ofNat k).toNat % 4 = (offset.toNat + k) % 4 := by
  rw [UInt64.toNat_add, UInt64.toNat_ofNat']
  omega

/-- A piece stays inside one word. -/
theorem inside_of_mem (mem : p ∈ pieces offset size) : 0 < p.count ∧
    (offset + UInt64.ofNat p.first).toNat % 4 + p.count ≤ 4 ∧ p.first + p.count ≤ size.bytes := by
  have lane := toNat_mod_four offset
  rw [toNat_add_mod]
  unfold pieces at mem
  split at mem
  · next wide =>
    obtain ⟨rfl, aligned⟩ := wide
    have whole := congrArg UInt64.toNat aligned
    rw [lane, UInt64.toNat_zero] at whole
    rcases List.mem_pair.1 mem with rfl | rfl
    · exact ⟨by decide, by dsimp only; omega, by decide⟩
    · exact ⟨by decide, by dsimp only; omega, by decide⟩
  · split at mem
    · obtain rfl := List.mem_singleton.1 mem
      exact ⟨size.bytes_pos, by simp only [Nat.add_zero]; omega, Nat.zero_add _ ▸ le_rfl⟩
    · obtain ⟨k, inside, rfl⟩ := List.mem_map.1 mem
      have := List.mem_range.1 inside
      refine ⟨Nat.one_pos, ?_, this⟩
      dsimp only
      omega

theorem exists_covers : (∃ p ∈ pieces offset size, p.Covers k) ↔ k < size.bytes := by
  unfold pieces Piece.Covers
  split
  · next wide =>
    obtain ⟨rfl, -⟩ := wide
    have bytes : AccessSize.double.bytes = 8 := rfl
    simp [bytes]
    omega
  · split
    · simp
    · constructor
      · rintro ⟨_, mem, low, high⟩
        obtain ⟨j, inside, rfl⟩ := List.mem_map.1 mem
        have := List.mem_range.1 inside
        dsimp only at low high
        omega
      · intro inside
        exact ⟨⟨k, 1⟩, List.mem_map.2 ⟨k, List.mem_range.2 inside, rfl⟩, le_rfl, Nat.lt_succ_self k⟩

/-- The bytes after the first of a piece lie in the same word. -/
theorem wordOffset_of_covers (mem : p ∈ pieces offset size) (covers : p.Covers k) :
    wordOffset (offset + UInt64.ofNat k) = wordOffset (offset + UInt64.ofNat p.first) ∧
      (offset + UInt64.ofNat k).toNat % 4 =
        (offset + UInt64.ofNat p.first).toNat % 4 + (k - p.first) := by
  obtain ⟨-, fits, -⟩ := inside_of_mem mem
  obtain ⟨low, high⟩ := covers
  have bound := (offset + UInt64.ofNat p.first).toNat_lt
  have moved : offset + UInt64.ofNat k =
      offset + UInt64.ofNat p.first + UInt64.ofNat (k - p.first) := by
    rw [UInt64.add_assoc, ← UInt64.ofNat_add, Nat.add_sub_cancel' low]
  have position : (offset + UInt64.ofNat k).toNat =
      (offset + UInt64.ofNat p.first).toNat + (k - p.first) := by
    rw [moved]
    exact toNat_add_ofNat (by omega)
  exact ⟨(wordOffset_eq_iff _ _).2 (by omega), by omega⟩

/-- The words of the pieces are those that the access covers a byte of. -/
theorem exists_piece_word {P : UInt64 → Prop} :
    (∃ p ∈ pieces offset size, P (wordOffset (offset + UInt64.ofNat p.first))) ↔
      ∃ k < size.bytes, P (wordOffset (offset + UInt64.ofNat k)) := by
  constructor
  · rintro ⟨p, mem, holds⟩
    obtain ⟨positive, -, within⟩ := inside_of_mem mem
    exact ⟨p.first, by omega, holds⟩
  · rintro ⟨k, inside, holds⟩
    obtain ⟨p, mem, covers⟩ := exists_covers.2 inside
    rw [(wordOffset_of_covers mem covers).1] at holds
    exact ⟨p, mem, holds⟩

-- ---------------------------------------------------------------------------
-- Loads and stores
-- ---------------------------------------------------------------------------

variable {δ : Type} [Peripheral δ]

def loadPiece (offset : UInt64) (d : δ) (p : Piece) : δ :=
  (read d (wordOffset (offset + UInt64.ofNat p.first))).2

def storePiece (offset payload : UInt64) (d : δ) (p : Piece) : δ :=
  storeWord d (offset + UInt64.ofNat p.first) p.count (payload >>> UInt64.ofNat (8 * p.first))

theorem snd_loadBytes (d : δ) (offset : UInt64) (n : Nat) : (loadBytes d offset n).2 =
    ((List.range n).map fun k => Piece.mk k 1).foldl (loadPiece offset) d := by
  induction n with
  | zero => rfl
  | succ n ih =>
    rw [List.range_succ, List.map_append, List.foldl_append, ← ih]
    rfl

theorem snd_load_eq_foldl (d : δ) (offset : UInt64) (size : AccessSize) :
    (load d offset size).2 = (pieces offset size).foldl (loadPiece offset) d := by
  have start : offset + UInt64.ofNat 0 = offset := UInt64.add_zero offset
  unfold load pieces
  split
  · simp only [List.foldl, loadPiece, start]
    rfl
  · split
    · simp only [List.foldl, loadPiece, start]
      rfl
    · exact snd_loadBytes d offset size.bytes

theorem storeBytes_eq_foldl (d : δ) (offset payload : UInt64) {n : Nat} (small : n ≤ 8) :
    storeBytes d offset payload n =
      ((List.range n).map fun k => Piece.mk k 1).foldl (storePiece offset payload) d := by
  induction n with
  | zero => rfl
  | succ n ih =>
    rw [List.range_succ, List.map_append, List.foldl_append, ← ih (by omega)]
    refine storeWord_congr _ _ Nat.one_pos (by omega) fun k hk => ?_
    obtain rfl : k = 0 := by omega
    rw [payloadByte_lowest, Nat.mul_comm]

theorem store_eq_foldl (d : δ) (offset : UInt64) (size : AccessSize) (payload : UInt64) :
    store d offset size payload = (pieces offset size).foldl (storePiece offset payload) d := by
  have start : offset + UInt64.ofNat 0 = offset := UInt64.add_zero offset
  have whole : payload >>> UInt64.ofNat (8 * 0) = payload := UInt64.shiftRight_zero
  unfold store pieces
  split
  · next wide =>
    have lane := congrArg UInt64.toNat wide.2
    rw [toNat_mod_four] at lane
    have fits : offset.toNat % 4 + 4 ≤ 4 := by simp_all
    simp only [List.foldl, storePiece, start, whole]
    rw [storeWord_congr d offset (n := 4) (by decide) fits fun k hk =>
      payloadByte_and_low payload hk]
    rfl
  · split
    · simp only [List.foldl, storePiece, start, whole]
    · exact storeBytes_eq_foldl d offset payload (by cases size <;> decide)

-- ---------------------------------------------------------------------------
-- The bytes of an answer
-- ---------------------------------------------------------------------------

def earlier (offset : UInt64) (size : AccessSize) (k : Nat) : List Piece :=
  (pieces offset size).filter fun p => p.first + p.count ≤ k

/-- The device when byte `k` of the answer is read. -/
def atByte (d : δ) (offset : UInt64) (size : AccessSize) (k : Nat) : δ :=
  (earlier offset size k).foldl (loadPiece offset) d

theorem payloadByte_loadWord (d : δ) (offset : UInt64) {n : Nat} (hn : 0 < n)
    (fits : offset.toNat % 4 + n ≤ 4) (hk : k < 8) :
    payloadByte (loadWord d offset n).1 k =
      if k < n then laneOf (read d (wordOffset (offset + UInt64.ofNat k))).1
        ((offset + UInt64.ofNat k).toNat % 4) else 0 := by
  rw [loadWord]
  dsimp only
  rw [payloadByte_covered _ _ hn fits hk]
  by_cases inside : k < n
  · have bound := offset.toNat_lt
    have position : (offset + UInt64.ofNat k).toNat = offset.toNat + k :=
      toNat_add_ofNat (by omega)
    have same : wordOffset (offset + UInt64.ofNat k) = wordOffset offset :=
      (wordOffset_eq_iff _ _).2 (by omega)
    rw [if_pos inside, if_pos inside, same, position]
    congr 1
    omega
  · rw [if_neg inside, if_neg inside]

theorem payloadByte_loadBytes (d : δ) (offset : UInt64) {n : Nat} (hn : n ≤ 8) (hk : k < 8) :
    payloadByte (loadBytes d offset n).1 k =
      if k < n then laneOf (read (loadBytes d offset k).2 (wordOffset (offset + UInt64.ofNat k))).1
        ((offset + UInt64.ofNat k).toNat % 4) else 0 := by
  induction n generalizing k with
  | zero => simp [loadBytes, payloadByte]
  | succ n ih =>
    have lane (k : Nat) (hk : k < 8) := payloadByte_loadWord (loadBytes d offset n).2
      (offset + UInt64.ofNat n) (k := k) Nat.one_pos (by omega) hk
    rw [loadBytes]
    dsimp only
    rw [payloadByte_join (by omega) hk fun k hk above => by
      rw [ih (by omega) hk, if_neg (by omega)]]
    by_cases below : k < n
    · rw [if_pos below, if_pos (by omega), ih (by omega) hk, if_pos below]
    · rw [if_neg below, lane _ (by omega)]
      by_cases here : k = n
      · subst here
        simp
      · rw [if_neg (by omega), if_neg (by omega)]

theorem earlier_bytes {n : Nat} (within : k ≤ n) :
    ((List.range n).map fun k => Piece.mk k 1).filter (fun p => p.first + p.count ≤ k) =
      (List.range k).map fun k => ⟨k, 1⟩ := by
  obtain ⟨m, rfl⟩ := Nat.exists_eq_add_of_le within
  rw [List.filter_map, List.range_add, List.filter_append, List.filter_eq_self.2,
    List.filter_eq_nil_iff.2, List.append_nil]
  · intro j mem
    obtain ⟨i, -, rfl⟩ := List.mem_map.1 mem
    simp
  · intro j mem
    have := List.mem_range.1 mem
    simp
    omega

theorem payloadByte_loadPair (d : δ) {offset : UInt64} (whole : offset.toNat % 4 = 0)
    (hk : k < 8) :
    let second := loadWord (loadWord d offset 4).2 (offset + 4) 4
    payloadByte ((loadWord d offset 4).1 ||| (second.1 <<< 32)) k =
      laneOf (read (if k < 4 then d else (loadWord d offset 4).2)
        (wordOffset (offset + UInt64.ofNat k))).1 ((offset + UInt64.ofNat k).toNat % 4) := by
  intro second
  have low (k : Nat) (hk : k < 8) := payloadByte_loadWord d offset (n := 4) (k := k) (by decide)
    (by omega) hk
  have later : (offset + UInt64.ofNat 4).toNat % 4 + 4 ≤ 4 := by
    rw [toNat_add_mod]
    omega
  have high (k : Nat) (hk : k < 8) := payloadByte_loadWord (loadWord d offset 4).2
    (offset + UInt64.ofNat 4) (n := 4) (k := k) (by decide) later hk
  have narrow (k : Nat) (hk : k < 8) (above : 4 ≤ k) :
      payloadByte (loadWord d offset 4).1 k = 0 := by
    rw [low k hk, if_neg (by omega)]
  refine (payloadByte_join (show 4 < 8 by decide) hk narrow).trans ?_
  by_cases below : k < 4
  · rw [if_pos below, if_pos below, low k hk, if_pos below]
  · have moved : offset + UInt64.ofNat 4 + UInt64.ofNat (k - 4) = offset + UInt64.ofNat k := by
      rw [UInt64.add_assoc, ← UInt64.ofNat_add, Nat.add_sub_cancel' (by omega)]
    rw [if_neg below, if_neg below, ← moved]
    exact (high (k - 4) (by omega)).trans (if_pos (by omega))

theorem earlier_pair : ([⟨0, 4⟩, ⟨4, 4⟩] : List Piece).filter (fun p => p.first + p.count ≤ k) =
    if k < 4 then [] else if k < 8 then [⟨0, 4⟩] else [⟨0, 4⟩, ⟨4, 4⟩] := by
  simp [List.filter_cons]
  grind

/-- Byte `k` of the answer is a byte of the word it lies in, as that is read when the pieces before
have been read. -/
theorem payloadByte_load (d : δ) (offset : UInt64) (size : AccessSize) (hk : k < 8) :
    payloadByte (load d offset size).1 k =
      if k < size.bytes then
        laneOf (read (atByte d offset size k) (wordOffset (offset + UInt64.ofNat k))).1
          ((offset + UInt64.ofNat k).toNat % 4)
      else 0 := by
  have start : offset + UInt64.ofNat 0 = offset := UInt64.add_zero offset
  have lane := toNat_mod_four offset
  unfold load atByte earlier pieces
  split
  · next wide =>
    obtain ⟨rfl, aligned⟩ := wide
    have whole := congrArg UInt64.toNat aligned
    rw [lane, UInt64.toNat_zero] at whole
    have bytes : AccessSize.double.bytes = 8 := rfl
    rw [bytes, if_pos hk, earlier_pair, if_pos hk]
    refine (payloadByte_loadPair d whole hk).trans ?_
    by_cases below : k < 4
    · rw [if_pos below, if_pos below]
      rfl
    · rw [if_neg below, if_neg below]
      simp only [List.foldl, loadPiece, start]
      rfl
  · split
    · next single =>
      rw [payloadByte_loadWord d offset size.bytes_pos (by omega) hk]
      by_cases inside : k < size.bytes
      · simp [inside]
      · rw [if_neg inside, if_neg inside]
    · rw [payloadByte_loadBytes d offset (by cases size <;> decide) hk]
      by_cases inside : k < size.bytes
      · rw [if_pos inside, if_pos inside, earlier_bytes (by omega), ← snd_loadBytes]
      · rw [if_neg inside, if_neg inside]

end BoardSim.Peripheral
