/-!
# Address map

Address ranges of the devices, ordered by base address. `AddressMap.insert?` keeps the ranges
disjoint, and `AddressMap.resolve` finds the range of an address by its base alone: of the ranges
that begin no later it is the last.

`Separated` is what inserting keeps, and `resolve_eq_find?` says that under it the range found is
the one that contains the address.
-/

namespace BoardSim

/-- The range `[base, limit)` belongs to the device with the given index. -/
structure Mapping where
  base : UInt64
  limit : UInt64
  device : Nat
deriving DecidableEq

namespace Mapping

def contains (m : Mapping) (address : UInt64) : Bool := m.base ≤ address && address < m.limit

def overlaps (m : Mapping) (base limit : UInt64) : Bool := base < m.limit && m.base < limit

end Mapping

/-- Mappings in ascending order of their bases. -/
abbrev AddressMap := List Mapping

inductive MappingError where
  /-- The range is empty or runs past the end of the address space. -/
  | invalid
  | overlaps (device : Nat)
deriving DecidableEq

namespace AddressMap

/-- Map `[base, base + size)`. A conflict names the first device in address order. -/
def insert? (map : AddressMap) (base size : UInt64) (device : Nat) :
    Except MappingError AddressMap :=
  if size = 0 ∨ UInt64.size ≤ base.toNat + size.toNat then .error .invalid
  else
    let limit := base + size
    match map.find? (·.overlaps base limit) with
    | some m => .error (.overlaps m.device)
    | none =>
      .ok (map.takeWhile (·.base < base) ++ ⟨base, limit, device⟩ :: map.dropWhile (·.base < base))

def resolve (map : AddressMap) (address : UInt64) : Option (Nat × UInt64) :=
  match (map.takeWhile (·.base ≤ address)).getLast? with
  | none => none
  | some m => if address < m.limit then some (m.device, address - m.base) else none

-- ---------------------------------------------------------------------------
-- Separated maps
-- ---------------------------------------------------------------------------

/-- No range is empty, and each ends before the next one begins. -/
def Separated (map : AddressMap) : Prop :=
  map.Pairwise (fun a b => a.limit ≤ b.base) ∧ ∀ m ∈ map, m.base < m.limit

theorem separated_nil : Separated [] := ⟨.nil, by simp⟩

theorem Separated.tail {m : Mapping} {map : AddressMap} (h : Separated (m :: map)) :
    Separated map :=
  ⟨(List.pairwise_cons.1 h.1).2, fun r hr => h.2 r (List.mem_cons_of_mem _ hr)⟩

theorem Separated.limit_le {m r : Mapping} {map : AddressMap} (h : Separated (m :: map))
    (hr : r ∈ map) : m.limit ≤ r.base :=
  (List.pairwise_cons.1 h.1).1 r hr

theorem Separated.base_lt {m r : Mapping} {map : AddressMap} (h : Separated (m :: map))
    (hr : r ∈ map) : m.base < r.base :=
  UInt64.lt_of_lt_of_le (h.2 m List.mem_cons_self) (h.limit_le hr)

/-- In a separated map an address is resolved to the range that contains it. -/
theorem resolve_eq_find? {map : AddressMap} (h : map.Separated) (address : UInt64) :
    map.resolve address =
      (map.find? (·.contains address)).map fun m => (m.device, address - m.base) := by
  induction map with
  | nil => rfl
  | cons m rest ih =>
    have ih := ih h.tail
    by_cases hm : m.base ≤ address
    · cases hw : rest.takeWhile (·.base ≤ address) with
      | nil =>
        have last : m :: rest.takeWhile (·.base ≤ address) = [m] := by rw [hw]
        have missed : rest.find? (·.contains address) = none := by
          simp only [resolve, hw, List.getLast?_nil] at ih
          exact Option.map_eq_none_iff.1 ih.symm
        rw [List.find?_cons, missed]
        by_cases hl : address < m.limit <;> simp [resolve, hm, hw, Mapping.contains, hl]
      | cons r l =>
        have hr : r ∈ rest.takeWhile (·.base ≤ address) := by simp [hw]
        have hle : r.base ≤ address := by simpa using List.all_eq_true.1 List.all_takeWhile r hr
        have past : ¬ address < m.limit := by
          rw [UInt64.not_lt]
          exact UInt64.le_trans (h.limit_le ((List.takeWhile_sublist _).subset hr)) hle
        rw [List.find?_cons_of_neg (by simp [Mapping.contains, past]), ← ih]
        simp [resolve, hm, hw, List.getLast?_cons_cons]
    · have missed : (m :: rest).find? (·.contains address) = none := by
        rw [List.find?_eq_none]
        intro r hr
        have : ¬ r.base ≤ address := by
          rcases List.mem_cons.1 hr with rfl | hr
          · exact hm
          · exact fun e => hm (UInt64.le_trans (UInt64.le_of_lt (h.base_lt hr)) e)
        simp [Mapping.contains, this]
      rw [missed]
      simp [resolve, hm]

/-- In a separated map the ranges after those that begin before `base` begin no earlier. -/
theorem Separated.le_base_of_mem_dropWhile {map : AddressMap} (h : map.Separated) {base : UInt64}
    {m : Mapping} (hm : m ∈ map.dropWhile (·.base < base)) : base ≤ m.base := by
  induction map with
  | nil => simp at hm
  | cons r rest ih =>
    by_cases hr : r.base < base
    · rw [List.dropWhile_cons_of_pos (by simpa using hr)] at hm
      exact ih h.tail hm
    · rw [List.dropWhile_cons_of_neg (by simpa using hr)] at hm
      rcases List.mem_cons.1 hm with rfl | hm
      · exact UInt64.not_lt.1 hr
      · exact UInt64.le_trans (UInt64.not_lt.1 hr) (UInt64.le_of_lt (h.base_lt hm))

theorem Separated.insert? {map map' : AddressMap} {base size : UInt64} {device : Nat}
    (h : map.Separated) (e : map.insert? base size device = .ok map') : map'.Separated := by
  unfold AddressMap.insert? at e
  split at e
  · cases e
  next valid =>
  have hlt : base < base + size := by
    rw [UInt64.lt_iff_toNat_lt, UInt64.toNat_add]
    have : size.toNat ≠ 0 := fun h0 => valid (.inl (UInt64.toNat_inj.1 h0))
    simp only [UInt64.size] at valid
    omega
  simp only at e
  split at e
  · cases e
  next free =>
  cases e
  have apart (m : Mapping) (hm : m ∈ map) : m.limit ≤ base ∨ base + size ≤ m.base := by
    have := List.find?_eq_none.1 free m hm
    by_cases hl : m.limit ≤ base
    · exact .inl hl
    · exact .inr (by simpa [Mapping.overlaps, UInt64.not_le.1 hl] using this)
  have before (m : Mapping) (hm : m ∈ map.takeWhile (·.base < base)) : m.limit ≤ base := by
    have hb : m.base < base := by simpa using List.all_eq_true.1 List.all_takeWhile m hm
    rcases apart m ((List.takeWhile_sublist _).subset hm) with hl | hl
    · exact hl
    · exact absurd (UInt64.lt_of_lt_of_le hlt hl) (UInt64.not_lt.2 (UInt64.le_of_lt hb))
  have after (m : Mapping) (hm : m ∈ map.dropWhile (·.base < base)) : base + size ≤ m.base := by
    have hb := h.le_base_of_mem_dropWhile hm
    have hm := (List.dropWhile_sublist _).subset hm
    rcases apart m hm with hl | hl
    · exact absurd (UInt64.lt_of_lt_of_le (h.2 m hm) hl) (UInt64.not_lt.2 hb)
    · exact hl
  have parts := List.takeWhile_append_dropWhile (p := (·.base < base)) (l := map)
  have pairs := h.1
  rw [← parts, List.pairwise_append] at pairs
  refine ⟨List.pairwise_append.2 ⟨pairs.1, List.pairwise_cons.2 ⟨after, pairs.2.1⟩, ?_⟩, ?_⟩
  · intro a ha b hb
    rcases List.mem_cons.1 hb with rfl | hb
    · exact before a ha
    · exact pairs.2.2 a ha b hb
  · intro m hm
    rcases List.mem_append.1 hm with hm | hm
    · exact h.2 m ((List.takeWhile_sublist _).subset hm)
    · rcases List.mem_cons.1 hm with rfl | hm
      · exact hlt
      · exact h.2 m ((List.dropWhile_sublist _).subset hm)

end AddressMap

end BoardSim
