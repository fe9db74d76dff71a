import BoardSim.Bus.Basic

/-!
# Routing

The address map of a bus follows its devices: `Bus.Mapped` holds of the empty bus and is kept by
every registration, whether it succeeds or not. Under it an address resolves to the one device
whose range contains it, and an access touches that device alone.
-/

namespace BoardSim

-- ---------------------------------------------------------------------------
-- Ranges
-- ---------------------------------------------------------------------------

namespace Entry

def mapping (e : Entry) (device : Nat) : Mapping := ⟨e.base, e.base + e.size, device⟩

def Contains (e : Entry) (address : UInt64) : Prop :=
  e.base.toNat ≤ address.toNat ∧ address.toNat < e.base.toNat + e.size.toNat

/-- The range is not empty and ends inside the address space. -/
def Fits (e : Entry) : Prop := e.size ≠ 0 ∧ e.base.toNat + e.size.toNat < UInt64.size

theorem Fits.toNat_limit {e : Entry} (fits : e.Fits) :
    (e.base + e.size).toNat = e.base.toNat + e.size.toNat := by
  rw [UInt64.toNat_add]
  exact Nat.mod_eq_of_lt fits.2

theorem Fits.contains_mapping {e : Entry} (fits : e.Fits) {device : Nat} {address : UInt64} :
    (e.mapping device).contains address = true ↔ e.Contains address := by
  rw [mapping, Mapping.contains, Contains, Bool.and_eq_true, decide_eq_true_iff,
    decide_eq_true_iff, UInt64.le_iff_toNat_le, UInt64.lt_iff_toNat_lt, fits.toNat_limit]

end Entry

namespace AddressMap

theorem Separated.sorted {map : AddressMap} (h : map.Separated) :
    map.Pairwise fun a b => a.base < b.base := by
  induction map with
  | nil => exact .nil
  | cons m rest ih => exact .cons (fun r hr => h.base_lt hr) (ih h.tail)

theorem not_contains_of_limit_le {a b : Mapping} (h : a.limit ≤ b.base) (address : UInt64) :
    ¬(a.contains address ∧ b.contains address) := by
  simp only [Mapping.contains, Bool.and_eq_true, decide_eq_true_iff]
  rintro ⟨⟨-, inside⟩, after, -⟩
  exact UInt64.not_lt.2 (UInt64.le_trans h after) inside

theorem Separated.disjoint {map : AddressMap} (h : map.Separated) :
    map.Pairwise fun a b => ∀ address, ¬(a.contains address ∧ b.contains address) :=
  h.1.imp not_contains_of_limit_le

theorem Separated.eq_of_contains {map : AddressMap} (h : map.Separated) {a b : Mapping}
    (ha : a ∈ map) (hb : b ∈ map) {address : UInt64} (inA : a.contains address = true)
    (inB : b.contains address = true) : a = b := by
  induction map with
  | nil => cases ha
  | cons m rest ih =>
    rcases List.mem_cons.1 ha with rfl | inRestA
    · rcases List.mem_cons.1 hb with rfl | inRestB
      · rfl
      · exact absurd ⟨inA, inB⟩ (not_contains_of_limit_le (h.limit_le inRestB) address)
    · rcases List.mem_cons.1 hb with rfl | inRestB
      · exact absurd ⟨inB, inA⟩ (not_contains_of_limit_le (h.limit_le inRestA) address)
      · exact ih h.tail inRestA inRestB

/-- What a range must be to be mapped, and the map afterwards. -/
theorem valid_and_perm_of_insert? {map map' : AddressMap} {base size : UInt64} {device : Nat}
    (e : map.insert? base size device = .ok map') :
    (size ≠ 0 ∧ base.toNat + size.toNat < UInt64.size) ∧
      map'.Perm (map ++ [⟨base, base + size, device⟩]) := by
  unfold insert? at e
  split at e
  · cases e
  next valid =>
  rw [not_or, Nat.not_le] at valid
  simp only at e
  split at e
  · cases e
  cases e
  refine ⟨valid, ?_⟩
  -- where the range is inserted does not matter for which ranges there are
  refine List.perm_middle.trans ?_
  rw [List.takeWhile_append_dropWhile]
  exact (List.perm_append_singleton _ _).symm

end AddressMap

/-- Only a view of the interrupt controller can change it. -/
theorem Device.controller_access {d : Device} (h : d.isView = false) (c : InterruptController)
    (offset : UInt64) (size : AccessSize) (direction : Direction) (payload : UInt64) :
    (d.access c offset size direction payload).2.2 = c := by
  cases d with
  | view v => cases h
  | _ => rfl

namespace Bus

-- ---------------------------------------------------------------------------
-- Registration
-- ---------------------------------------------------------------------------

/-- Try to register a device; a bus that refuses it stays as it is. -/
def attempt (bus : Bus) (entry : Entry) : Bus :=
  match bus.register entry with
  | .ok (_, bus) => bus
  | .error _ => bus

def assemble (controller : InterruptController) (attempts : List Entry) : Bus :=
  attempts.foldl attempt { controller }

def ranges (bus : Bus) : AddressMap := bus.entries.toList.mapIdx fun i e => e.mapping i

structure Mapped (bus : Bus) : Prop where
  separated : bus.map.Separated
  perm : bus.map.Perm bus.ranges
  fits : ∀ e ∈ bus.entries, e.Fits

theorem mem_ranges {bus : Bus} {m : Mapping} :
    m ∈ bus.ranges ↔ ∃ e, bus.entries[m.device]? = some e ∧ e.mapping m.device = m := by
  rw [ranges, List.mem_mapIdx]
  constructor
  · rintro ⟨i, hi, rfl⟩
    exact ⟨_, by simp [Entry.mapping], rfl⟩
  · rintro ⟨e, he, hm⟩
    obtain ⟨hi, rfl⟩ := Array.getElem?_eq_some_iff.1 he
    exact ⟨m.device, by simpa using hi, by simpa using hm⟩

theorem register_eq_ok {bus bus' : Bus} {entry : Entry} {index : Nat}
    (h : bus.register entry = .ok (index, bus')) :
    ∃ map, bus.map.insert? entry.base entry.size bus.entries.size = .ok map ∧
      bus' = { bus with entries := bus.entries.push entry, map } := by
  unfold register at h
  simp only at h
  split at h
  · cases h
  · split at h
    · cases h
    · cases h
    · next map inserted =>
      cases h
      exact ⟨map, inserted, rfl⟩

theorem mapped_empty (controller : InterruptController) : Mapped { controller } where
  separated := AddressMap.separated_nil
  perm := .nil
  fits e he := by simp at he

theorem Mapped.attempt {bus : Bus} (h : bus.Mapped) (entry : Entry) :
    (bus.attempt entry).Mapped := by
  unfold Bus.attempt
  split
  · next index bus' registered =>
    obtain ⟨map, inserted, rfl⟩ := register_eq_ok registered
    obtain ⟨valid, perm⟩ := AddressMap.valid_and_perm_of_insert? inserted
    refine ⟨h.separated.insert? inserted, ?_, ?_⟩
    · refine perm.trans ?_
      rw [ranges, Array.toList_push, List.mapIdx_append]
      simpa [ranges, Entry.mapping] using h.perm.append_right _
    · intro e he
      rcases Array.mem_push.1 he with he | rfl
      · exact h.fits e he
      · exact valid
  · exact h

theorem mapped_assemble (controller : InterruptController) (attempts : List Entry) :
    (assemble controller attempts).Mapped := by
  have run (bus : Bus) (h : bus.Mapped) : (attempts.foldl Bus.attempt bus).Mapped := by
    induction attempts generalizing bus with
    | nil => exact h
    | cons entry rest ih => exact ih _ (h.attempt entry)
  exact run _ (mapped_empty controller)

-- ---------------------------------------------------------------------------
-- Resolution
-- ---------------------------------------------------------------------------

namespace Mapped

variable {bus : Bus} {address : UInt64} {e e' : Entry} {i j : Nat}

theorem mapping_mem (h : bus.Mapped) (he : bus.entries[i]? = some e) : e.mapping i ∈ bus.map :=
  h.perm.mem_iff.2 (mem_ranges.2 ⟨e, he, rfl⟩)

theorem contains_mapping (h : bus.Mapped) (he : bus.entries[i]? = some e) :
    (e.mapping i).contains address = true ↔ e.Contains address :=
  (h.fits e (Array.mem_of_getElem? he)).contains_mapping

theorem index_unique (h : bus.Mapped) (he : bus.entries[i]? = some e) (inE : e.Contains address)
    (he' : bus.entries[j]? = some e') (inE' : e'.Contains address) : i = j :=
  congrArg Mapping.device (h.separated.eq_of_contains (h.mapping_mem he) (h.mapping_mem he')
    ((h.contains_mapping he).2 inE) ((h.contains_mapping he').2 inE'))

theorem resolve_of_contains (h : bus.Mapped) (he : bus.entries[i]? = some e)
    (inE : e.Contains address) : bus.map.resolve address = some (i, address - e.base) := by
  have mem := h.mapping_mem he
  have inside := (h.contains_mapping he).2 inE
  rw [AddressMap.resolve_eq_find? h.separated]
  cases found : bus.map.find? (·.contains address) with
  | none => exact absurd inside (List.find?_eq_none.1 found _ mem)
  | some m =>
    have hit : m.contains address = true := by simpa using List.find?_some found
    rw [← h.separated.eq_of_contains mem (List.mem_of_find?_eq_some found) inside hit]
    rfl

theorem contains_of_resolve (h : bus.Mapped) {offset : UInt64}
    (found : bus.map.resolve address = some (i, offset)) :
    ∃ e, bus.entries[i]? = some e ∧ e.Contains address ∧ offset = address - e.base := by
  rw [AddressMap.resolve_eq_find? h.separated] at found
  obtain ⟨m, hm, pair⟩ := Option.map_eq_some_iff.1 found
  cases pair
  obtain ⟨e, he, eq⟩ := mem_ranges.1 (h.perm.mem_iff.1 (List.mem_of_find?_eq_some hm))
  have hit : m.contains address = true := by simpa using List.find?_some hm
  rw [← eq] at hit
  exact ⟨e, he, (h.contains_mapping he).1 hit, by rw [← eq]; rfl⟩

theorem resolve_eq_none (h : bus.Mapped) :
    bus.map.resolve address = none ↔ ∀ e ∈ bus.entries, ¬e.Contains address := by
  constructor
  · intro missing e he inE
    obtain ⟨i, hi, rfl⟩ := Array.mem_iff_getElem.1 he
    rw [h.resolve_of_contains (Array.getElem?_eq_getElem hi) inE] at missing
    cases missing
  · intro outside
    cases found : bus.map.resolve address with
    | none => rfl
    | some p =>
      obtain ⟨e, he, inE, -⟩ := h.contains_of_resolve found
      exact absurd inE (outside e (Array.mem_of_getElem? he))

theorem mapped_or_unmapped (h : bus.Mapped) (address : UInt64) :
    (∃ (i : Nat) (e : Entry), bus.entries[i]? = some e ∧ e.Contains address) ∨
      ∀ e ∈ bus.entries, ¬e.Contains address := by
  cases found : bus.map.resolve address with
  | none => exact .inr (h.resolve_eq_none.1 found)
  | some p =>
    obtain ⟨e, he, inE, -⟩ := h.contains_of_resolve found
    exact .inl ⟨p.1, e, he, inE⟩

end Mapped

-- ---------------------------------------------------------------------------
-- Accesses
-- ---------------------------------------------------------------------------

theorem Mapped.access_of_contains {bus : Bus} (h : bus.Mapped) {i : Nat} {e : Entry}
    (he : bus.entries[i]? = some e) {address : UInt64} (inE : e.Contains address)
    (size : AccessSize) (direction : Direction) (payload : UInt64) :
    bus.access address size direction payload =
      let (value, device, controller) :=
        e.device.access bus.controller (address - e.base) size direction payload
      (value,
        { bus with controller, entries := bus.entries.setIfInBounds i { e with device } }) := by
  rw [access, h.resolve_of_contains he inE]
  simp only [he]

theorem Mapped.access_of_unmapped {bus : Bus} (h : bus.Mapped) {address : UInt64}
    (outside : ∀ e ∈ bus.entries, ¬e.Contains address) (size : AccessSize) (direction : Direction)
    (payload : UInt64) : bus.access address size direction payload = (0, bus) := by
  rw [access, h.resolve_eq_none.2 outside]

structure RoutingContract (bus : Bus) : Prop where
  sorted : bus.map.Pairwise fun a b => a.base < b.base
  disjoint : bus.map.Pairwise fun a b => ∀ x, ¬(a.contains x ∧ b.contains x)
  correspondence : bus.map.Perm (bus.entries.toList.mapIdx fun i e => ⟨e.base, e.base + e.size, i⟩)
  limits : ∀ e ∈ bus.entries, e.size ≠ 0 ∧ (e.base + e.size).toNat = e.base.toNat + e.size.toNat
  resolved : ∀ x i offset, bus.map.resolve x = some (i, offset) ↔
    ∃ e, bus.entries[i]? = some e ∧ e.Contains x ∧ offset = x - e.base ∧
      ∀ (j : Nat) e', bus.entries[j]? = some e' → e'.Contains x → j = i
  unresolved : ∀ x, bus.map.resolve x = none ↔ ∀ e ∈ bus.entries, ¬e.Contains x
  unmapped : ∀ x size direction payload, (∀ e ∈ bus.entries, ¬e.Contains x) →
    bus.access x size direction payload = (0, bus)
  owner : ∀ (i : Nat) e x size direction payload, bus.entries[i]? = some e → e.Contains x →
    let reached := e.device.access bus.controller (x - e.base) size direction payload
    (bus.access x size direction payload).1 = reached.1 ∧
      (bus.access x size direction payload).2.entries[i]? =
        some { e with device := reached.2.1 } ∧
      (bus.access x size direction payload).2.controller = reached.2.2
  others : ∀ x size direction payload (j : Nat),
    (∀ e, bus.entries[j]? = some e → ¬e.Contains x) →
      (bus.access x size direction payload).2.entries[j]? = bus.entries[j]?
  controller : ∀ x size direction payload,
    (∀ e ∈ bus.entries, e.Contains x → e.device.isView = false) →
      (bus.access x size direction payload).2.controller = bus.controller
  rest : ∀ x size direction payload,
    (bus.access x size direction payload).2.map = bus.map ∧
      (bus.access x size direction payload).2.traffic = bus.traffic

theorem Mapped.routingContract {bus : Bus} (h : bus.Mapped) : bus.RoutingContract where
  sorted := h.separated.sorted
  disjoint := h.separated.disjoint
  correspondence := h.perm
  limits e he := ⟨(h.fits e he).1, (h.fits e he).toNat_limit⟩
  resolved x i offset := by
    constructor
    · intro found
      obtain ⟨e, he, inE, offset_eq⟩ := h.contains_of_resolve found
      exact ⟨e, he, inE, offset_eq, fun j e' he' inE' => h.index_unique he' inE' he inE⟩
    · rintro ⟨e, he, inE, rfl, -⟩
      exact h.resolve_of_contains he inE
  unresolved _ := h.resolve_eq_none
  unmapped _ size direction payload outside := h.access_of_unmapped outside size direction payload
  owner i e x size direction payload he inE := by
    obtain ⟨hi, -⟩ := Array.getElem?_eq_some_iff.1 he
    rw [h.access_of_contains he inE]
    exact ⟨rfl, Array.getElem?_setIfInBounds_self_of_lt hi, rfl⟩
  others x size direction payload j outside := by
    rcases h.mapped_or_unmapped x with ⟨i, e, he, inE⟩ | unmapped
    · have distinct : i ≠ j := by
        rintro rfl
        exact outside e he inE
      rw [h.access_of_contains he inE]
      exact Array.getElem?_setIfInBounds_ne distinct
    · rw [h.access_of_unmapped unmapped]
  controller x size direction payload plain := by
    rcases h.mapped_or_unmapped x with ⟨i, e, he, inE⟩ | unmapped
    · rw [h.access_of_contains he inE]
      exact Device.controller_access (plain e (Array.mem_of_getElem? he) inE) _ _ _ _ _
    · rw [h.access_of_unmapped unmapped]
  rest x size direction payload := by
    rcases h.mapped_or_unmapped x with ⟨i, e, he, inE⟩ | unmapped
    · rw [h.access_of_contains he inE]
      exact ⟨rfl, rfl⟩
    · rw [h.access_of_unmapped unmapped]
      exact ⟨rfl, rfl⟩

theorem assemble_routingContract (controller : InterruptController) (attempts : List Entry) :
    (assemble controller attempts).RoutingContract :=
  (mapped_assemble controller attempts).routingContract

end Bus

end BoardSim
