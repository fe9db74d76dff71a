import BoardSim.Proofs.Peripheral.Operation
import BoardSim.Proofs.Peripheral.Pieces

/-!
# How far an access reaches

A device keeps its layout, so which registers an access operates on can be told from its offset and
its size: they are those of the words it covers a byte of (`exists_operation_iff`). A byte that no
register has reads as zero (`payloadByte_load_of_none`), and what is written to it does not matter
(`store_congr_of_registers`).
-/

namespace BoardSim.Peripheral

variable {δ : Type} [Peripheral δ]

structure SteadyReads (δ : Type) [Peripheral δ] : Prop where
  fetch : ∀ (d : δ) i, layout (fetch d i).2 = layout d
  put : ∀ (d : δ) i word, layout (put d i word) = layout d

structure SteadyLayout (δ : Type) [Peripheral δ] : Prop extends SteadyReads δ where
  commit : ∀ (d : δ) i word, layout (commit d i word) = layout d

def Operation.register : Operation → Nat
  | .read i => i
  | .write i _ => i

-- ---------------------------------------------------------------------------
-- Layouts
-- ---------------------------------------------------------------------------

namespace SteadyReads

variable (steady : SteadyReads δ) (d : δ)
include steady

theorem layout_settle (i : Nat) : layout (settle d i) = layout d := by
  unfold settle
  split
  · exact steady.put _ _ _
  · rfl

theorem layout_read (word : UInt64) : layout (read d word).2 = layout d := by
  unfold read
  split
  · rfl
  · exact (steady.layout_settle _ _).trans (steady.fetch _ _)

theorem layout_foldl (offset : UInt64) (l : List Piece) :
    layout (l.foldl (loadPiece offset) d) = layout d := by
  induction l generalizing d with
  | nil => rfl
  | cons p rest ih => exact (ih _).trans (steady.layout_read d _)

end SteadyReads

namespace SteadyLayout

variable (steady : SteadyLayout δ)
include steady

theorem kept (layout₀ : Layout) : Kept fun d : δ => layout d = layout₀ where
  fetch _ _ same := (steady.fetch _ _).trans same
  settle _ _ same := (steady.layout_settle _ _).trans same
  commit _ _ _ same := (steady.commit _ _ _).trans same

theorem layout_storeWord (d : δ) (offset : UInt64) (bytes : Nat) (payload : UInt64) :
    layout (storeWord d offset bytes payload) = layout d :=
  (steady.kept _).storeWord rfl _ _ _

theorem recorded : SteadyLayout (Recorded δ) where
  fetch r i := steady.fetch r.device i
  put r i word := steady.put r.device i word
  commit r i word := steady.commit r.device i word

end SteadyLayout

-- ---------------------------------------------------------------------------
-- The registers
-- ---------------------------------------------------------------------------

def registersOf (layout : Layout) (offset : UInt64) (list : List Piece) : List Nat :=
  list.filterMap fun p => layout.indexOf? (wordOffset (offset + UInt64.ofNat p.first))

namespace Recorded

def registers (r : Recorded δ) : List Nat := r.operations.map Operation.register

theorem registers_read (r : Recorded δ) (word : UInt64) :
    (read r word).2.registers = r.registers ++ ((layout r).indexOf? word).toList := by
  unfold read
  split
  · next none => rw [none, Option.toList_none, List.append_nil]
  · next i found =>
    rw [found, Option.toList_some]
    show (settle (fetch r i).2 i).registers = _
    rw [settle_eq]
    exact List.map_append

theorem registers_write (r : Recorded δ) (offset : UInt64) (word : UInt32) :
    (write r offset word).registers = r.registers ++ ((layout r).indexOf? offset).toList := by
  unfold write
  split
  · next none => rw [none, Option.toList_none, List.append_nil]
  · next i found =>
    rw [found, Option.toList_some]
    exact List.map_append

theorem registers_storeWord (r : Recorded δ) (offset : UInt64) (bytes : Nat) (payload : UInt64) :
    (storeWord r offset bytes payload).registers =
      r.registers ++ ((layout r).indexOf? (wordOffset offset)).toList := by
  unfold storeWord
  dsimp only
  split
  · exact registers_write _ _ _
  · split
    · next none => rw [none, Option.toList_none, List.append_nil]
    · exact registers_write _ _ _

/-- One piece adds the register of its word. -/
theorem registers_foldl {offset : UInt64} {step : Recorded δ → Piece → Recorded δ}
    (same : ∀ r p, layout (step r p) = layout r)
    (adds : ∀ r p, (step r p).registers =
      r.registers ++ ((layout r).indexOf? (wordOffset (offset + UInt64.ofNat p.first))).toList)
    (r : Recorded δ) (list : List Piece) :
    (list.foldl step r).registers = r.registers ++ registersOf (layout r) offset list := by
  induction list generalizing r with
  | nil => exact (List.append_nil _).symm
  | cons p rest ih =>
    rw [List.foldl_cons, ih, adds, same, List.append_assoc, registersOf, registersOf,
      List.filterMap_cons]
    cases (layout r).indexOf? (wordOffset (offset + UInt64.ofNat p.first)) <;> rfl

end Recorded

section
variable (steady : SteadyLayout δ) (d : δ) (offset : UInt64) (size : AccessSize)
include steady

theorem registers_operations (direction : Direction) (payload : UInt64) :
    (operations d offset size direction payload).map Operation.register =
      registersOf (layout d) offset (pieces offset size) := by
  cases direction with
  | read =>
    show (load ({ device := d } : Recorded δ) offset size).2.registers = _
    rw [snd_load_eq_foldl]
    exact Recorded.registers_foldl (fun r p => steady.recorded.layout_read r _)
      (fun r p => r.registers_read _) _ _
  | write =>
    show (store ({ device := d } : Recorded δ) offset size payload).registers = _
    rw [store_eq_foldl]
    exact Recorded.registers_foldl (fun r p => steady.recorded.layout_storeWord r _ _ _)
      (fun r p => r.registers_storeWord _ _ _) _ _

/-- An access operates on the registers of the words that it covers a byte of. -/
theorem exists_operation_iff (direction : Direction) (payload : UInt64) (i : Nat) :
    (∃ operation ∈ operations d offset size direction payload, operation.register = i) ↔
      ∃ k < size.bytes, (layout d).indexOf? (wordOffset (offset + UInt64.ofNat k)) = some i := by
  rw [← List.mem_map, registers_operations steady, registersOf, List.mem_filterMap]
  exact exists_piece_word (P := fun word => (layout d).indexOf? word = some i)

end

-- ---------------------------------------------------------------------------
-- Bytes without a register
-- ---------------------------------------------------------------------------

section
variable {d : δ} {offset : UInt64} {size : AccessSize} {k : Nat}

theorem payloadByte_load_of_none (steady : SteadyReads δ) (small : k < 8)
    (none : (layout d).indexOf? (wordOffset (offset + UInt64.ofNat k)) = none) :
    payloadByte (load d offset size).1 k = 0 := by
  have same : layout (atByte d offset size k) = layout d := steady.layout_foldl d offset _
  have zero (lane : Nat) : laneOf 0 lane = 0 := by simp [laneOf]
  rw [payloadByte_load d offset size small]
  split
  · simp only [read, same, none, zero]
  · rfl

theorem storeWord_of_none {n : Nat} (payload : UInt64)
    (none : (layout d).indexOf? (wordOffset offset) = none) : storeWord d offset n payload = d := by
  simp only [storeWord, write, none, ite_self]

/-- The payloads agree in the bytes of the access that a register has. -/
def AgreeOnRegisters (layout : Layout) (offset : UInt64) (size : AccessSize) (v w : UInt64) :
    Prop :=
  ∀ k < size.bytes, layout.indexOf? (wordOffset (offset + UInt64.ofNat k)) ≠ none →
    payloadByte v k = payloadByte w k

theorem storePiece_congr {v w : UInt64} (agree : AgreeOnRegisters (layout d) offset size v w)
    {p : Piece} (mem : p ∈ pieces offset size) :
    storePiece offset v d p = storePiece offset w d p := by
  have short : size.bytes ≤ 8 := by cases size <;> decide
  obtain ⟨positive, fits, inside⟩ := inside_of_mem mem
  cases found : (layout d).indexOf? (wordOffset (offset + UInt64.ofNat p.first)) with
  | none =>
    rw [storePiece, storePiece, storeWord_of_none _ found, storeWord_of_none _ found]
  | some i =>
    refine storeWord_congr d _ positive fits fun j hj => ?_
    have word := (wordOffset_of_covers mem (k := p.first + j) ⟨by omega, by omega⟩).1
    rw [Nat.mul_comm 8, payloadByte_shiftRight _ (by omega), payloadByte_shiftRight _ (by omega)]
    exact agree _ (by omega) (by rw [word, found]; exact Option.some_ne_none i)

/-- Payloads that agree in the bytes with a register are the same to the device. -/
theorem store_congr_of_registers (steady : SteadyLayout δ) {v w : UInt64}
    (agree : AgreeOnRegisters (layout d) offset size v w) :
    store d offset size v = store d offset size w := by
  rw [store_eq_foldl, store_eq_foldl]
  -- the layout is the same before every piece
  have run (list : List Piece) (within : ∀ p ∈ list, p ∈ pieces offset size) (e : δ)
      (same : layout e = layout d) :
      list.foldl (storePiece offset v) e = list.foldl (storePiece offset w) e := by
    induction list generalizing e with
    | nil => rfl
    | cons p rest ih =>
      rw [List.foldl_cons, List.foldl_cons,
        storePiece_congr (same ▸ agree) (within p List.mem_cons_self)]
      exact ih (fun q mem => within q (List.mem_cons_of_mem _ mem)) _
        ((steady.layout_storeWord e _ _ _).trans same)
  exact run _ (fun _ mem => mem) d rfl

end

end BoardSim.Peripheral
