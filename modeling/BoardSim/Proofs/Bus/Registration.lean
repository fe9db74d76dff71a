import Mathlib.Data.List.Perm.Basic
import BoardSim.Proofs.Bus.Routing

/-!
# Registration

A bus takes a device in exactly if its interrupt line is one of the controller's, its range is not
empty and fits into the address space, and no registered range meets it; otherwise the bus says
which of these fails first and stays as it is. Devices whose ranges do not meet can therefore be
registered in any order, and every address belongs to the same device whatever the order was.
-/

namespace BoardSim

namespace Entry

def Apart (a b : Entry) : Prop := ∀ address, ¬(a.Contains address ∧ b.Contains address)

def LineWithin (e : Entry) (controller : InterruptController) : Prop :=
  ∀ line, e.irq = some line → line < controller.lineCount

theorem Apart.symm {a b : Entry} (h : a.Apart b) : b.Apart a :=
  fun address both => h address both.symm

theorem Fits.size_pos {e : Entry} (fits : e.Fits) : 0 < e.size.toNat :=
  Nat.pos_of_ne_zero fun zero => fits.1 (UInt64.toNat_inj.1 zero)

/-- Ranges meet exactly if each begins before the other ends. -/
theorem Fits.overlaps_mapping {a b : Entry} (ha : a.Fits) (hb : b.Fits) (device : Nat) :
    (a.mapping device).overlaps b.base (b.base + b.size) = true ↔ ¬a.Apart b := by
  have sizeA := ha.size_pos
  have sizeB := hb.size_pos
  simp only [mapping, Mapping.overlaps, Bool.and_eq_true, decide_eq_true_iff,
    UInt64.lt_iff_toNat_lt, ha.toNat_limit, hb.toNat_limit]
  constructor
  · rintro ⟨before, after⟩ apart
    rcases Nat.le_total a.base.toNat b.base.toNat with le | le
    · exact apart b.base ⟨⟨le, before⟩, Nat.le_refl _, by omega⟩
    · exact apart a.base ⟨⟨Nat.le_refl _, by omega⟩, le, after⟩
  · intro meet
    obtain ⟨address, ⟨fromA, toA⟩, fromB, toB⟩ :
        ∃ address, a.Contains address ∧ b.Contains address := by simpa [Apart] using meet
    omega

end Entry

namespace Bus

variable {bus : Bus} {entry : Entry}

-- ---------------------------------------------------------------------------
-- One device
-- ---------------------------------------------------------------------------

theorem register_of_lineWithin (within : entry.LineWithin bus.controller) :
    bus.register entry =
      match bus.map.insert? entry.base entry.size bus.entries.size with
      | .error .invalid => .error (.invalidRange entry.name entry.base entry.size)
      | .error (.overlaps other) => .error (.addressOverlap entry.name entry.base entry.size
          (((bus.entries[other]?).map Entry.name).getD ""))
      | .ok map => .ok (bus.entries.size, { bus with entries := bus.entries.push entry, map }) := by
  have none : entry.irq.filter (bus.controller.lineCount ≤ ·) = none := by
    cases irq : entry.irq with
    | none => rfl
    | some line => simp [within line irq]
  unfold register
  simp only
  split
  · next line named =>
    rw [none] at named
    cases named
  · rfl

theorem register_of_not_lineWithin {line : UInt32} (irq : entry.irq = some line)
    (out : bus.controller.lineCount ≤ line) :
    bus.register entry = .error (.invalidIrqLine line bus.controller.lineCount) := by
  have kept : (some line).filter (bus.controller.lineCount ≤ ·) = some line := by
    simp [Option.filter, out]
  rw [register, irq]
  simp only [kept]

theorem insert?_of_not_fits (unfit : ¬entry.Fits) (device : Nat) :
    bus.map.insert? entry.base entry.size device = .error .invalid := by
  have invalid : entry.size = 0 ∨ UInt64.size ≤ entry.base.toNat + entry.size.toNat := by
    rwa [Entry.Fits, not_and_or, not_not, Nat.not_lt] at unfit
  rw [AddressMap.insert?, if_pos invalid]

theorem insert?_of_fits (fits : entry.Fits) (device : Nat) :
    bus.map.insert? entry.base entry.size device =
      match bus.map.find? (·.overlaps entry.base (entry.base + entry.size)) with
      | some m => .error (.overlaps m.device)
      | none => .ok (bus.map.takeWhile (·.base < entry.base) ++
          entry.mapping device :: bus.map.dropWhile (·.base < entry.base)) := by
  have valid : ¬(entry.size = 0 ∨ UInt64.size ≤ entry.base.toNat + entry.size.toNat) := by
    rw [not_or, Nat.not_le]
    exact fits
  unfold AddressMap.insert?
  exact if_neg valid

theorem Mapped.insert?_of_meet (h : bus.Mapped) (fits : entry.Fits) (device : Nat)
    (meet : ∃ e ∈ bus.entries, ¬e.Apart entry) :
    ∃ (i : Nat) (e : Entry), bus.entries[i]? = some e ∧ ¬e.Apart entry ∧
      bus.map.insert? entry.base entry.size device = .error (.overlaps i) := by
  obtain ⟨e, mem, meets⟩ := meet
  obtain ⟨i, he⟩ := Array.getElem?_of_mem mem
  have overlaps := ((h.fits e mem).overlaps_mapping fits i).2 meets
  rw [insert?_of_fits fits]
  cases found : bus.map.find? (·.overlaps entry.base (entry.base + entry.size)) with
  | none => exact absurd overlaps (List.find?_eq_none.1 found _ (h.mapping_mem he))
  | some m =>
    -- the conflict that is reported need not be the one that was given
    obtain ⟨other, hother, eq⟩ :=
      mem_ranges.1 (h.perm.mem_iff.1 (List.mem_of_find?_eq_some found))
    have hit := List.find?_some found
    rw [← eq, (h.fits other (Array.mem_of_getElem? hother)).overlaps_mapping fits] at hit
    exact ⟨m.device, other, hother, hit, rfl⟩

theorem Mapped.insert?_of_apart (h : bus.Mapped) (fits : entry.Fits) (device : Nat)
    (apart : ∀ e ∈ bus.entries, e.Apart entry) :
    ∃ map, bus.map.insert? entry.base entry.size device = .ok map := by
  have free : bus.map.find? (·.overlaps entry.base (entry.base + entry.size)) = none := by
    refine List.find?_eq_none.2 fun m mem hit => ?_
    obtain ⟨e, he, eq⟩ := mem_ranges.1 (h.perm.mem_iff.1 mem)
    rw [← eq, (h.fits e (Array.mem_of_getElem? he)).overlaps_mapping fits] at hit
    exact hit (apart e (Array.mem_of_getElem? he))
  rw [insert?_of_fits fits, free]
  exact ⟨_, rfl⟩

structure Admits (bus : Bus) (entry : Entry) : Prop where
  line : entry.LineWithin bus.controller
  range : entry.Fits
  apart : ∀ e ∈ bus.entries, e.Apart entry

theorem Mapped.register_of_admits (h : bus.Mapped) (admits : bus.Admits entry) :
    ∃ map, map.Perm (bus.map ++ [entry.mapping bus.entries.size]) ∧
      bus.register entry =
        .ok (bus.entries.size, { bus with entries := bus.entries.push entry, map }) := by
  obtain ⟨map, inserted⟩ := h.insert?_of_apart admits.range bus.entries.size admits.apart
  refine ⟨map, (AddressMap.valid_and_perm_of_insert? inserted).2, ?_⟩
  rw [register_of_lineWithin admits.line, inserted]

structure RegistrationContract (bus : Bus) (entry : Entry) : Prop where
  accepted : (∃ index bus', bus.register entry = .ok (index, bus')) ↔ bus.Admits entry
  registered : ∀ index bus', bus.register entry = .ok (index, bus') →
    index = bus.entries.size ∧ bus'.entries = bus.entries.push entry ∧
      bus'.map.Perm (bus.map ++ [entry.mapping index]) ∧
        bus'.controller = bus.controller ∧ bus'.traffic = bus.traffic
  /-- The line is looked at first, then the range by itself, then the other ranges. -/
  line : ∀ line, entry.irq = some line → bus.controller.lineCount ≤ line →
    bus.register entry = .error (.invalidIrqLine line bus.controller.lineCount)
  range : entry.LineWithin bus.controller → ¬entry.Fits →
    bus.register entry = .error (.invalidRange entry.name entry.base entry.size)
  overlap : entry.LineWithin bus.controller → entry.Fits → (∃ e ∈ bus.entries, ¬e.Apart entry) →
    ∃ other ∈ bus.entries, (∃ address, other.Contains address ∧ entry.Contains address) ∧
      bus.register entry =
        .error (.addressOverlap entry.name entry.base entry.size other.name)
  refused : ∀ e, bus.register entry = .error e → bus.attempt entry = bus

theorem Mapped.register_of_meet (h : bus.Mapped) (within : entry.LineWithin bus.controller)
    (fits : entry.Fits) (meet : ∃ e ∈ bus.entries, ¬e.Apart entry) :
    ∃ other ∈ bus.entries, (∃ address, other.Contains address ∧ entry.Contains address) ∧
      bus.register entry =
        .error (.addressOverlap entry.name entry.base entry.size other.name) := by
  obtain ⟨i, other, here, meets, refused⟩ := h.insert?_of_meet fits bus.entries.size meet
  refine ⟨other, Array.mem_of_getElem? here, by simpa [Entry.Apart] using meets, ?_⟩
  rw [register_of_lineWithin within, refused]
  simp only [here]
  rfl

theorem Mapped.admits_of_registered (h : bus.Mapped) {index : Nat} {bus' : Bus}
    (registered : bus.register entry = .ok (index, bus')) : bus.Admits entry := by
  have within : entry.LineWithin bus.controller := by
    intro line irq
    refine UInt32.not_le.1 fun out => ?_
    rw [register_of_not_lineWithin irq out] at registered
    cases registered
  have fits : entry.Fits := by
    by_contra unfit
    rw [register_of_lineWithin within, insert?_of_not_fits unfit] at registered
    cases registered
  refine ⟨within, fits, ?_⟩
  by_contra some
  rw [not_forall₂] at some
  obtain ⟨other, -, -, refused⟩ := h.register_of_meet within fits (by simpa using some)
  rw [refused] at registered
  cases registered

theorem Mapped.registrationContract (h : bus.Mapped) (entry : Entry) :
    bus.RegistrationContract entry where
  accepted := by
    refine ⟨fun ⟨index, bus', registered⟩ => h.admits_of_registered registered, fun admits => ?_⟩
    obtain ⟨map, -, registered⟩ := h.register_of_admits admits
    exact ⟨_, _, registered⟩
  registered index bus' registered := by
    obtain ⟨map, perm, same⟩ := h.register_of_admits (h.admits_of_registered registered)
    rw [same] at registered
    cases registered
    exact ⟨rfl, rfl, perm, rfl, rfl⟩
  line line irq out := register_of_not_lineWithin irq out
  range within unfit := by rw [register_of_lineWithin within, insert?_of_not_fits unfit]
  overlap := h.register_of_meet
  refused e refused := by rw [Bus.attempt, refused]

-- ---------------------------------------------------------------------------
-- Many devices
-- ---------------------------------------------------------------------------

def registerAll (bus : Bus) (entries : List Entry) : Except SimError Bus :=
  entries.foldlM (fun bus entry => (·.2) <$> bus.register entry) bus

/-- The device that an address belongs to, and the offset in it. Ranges that are registered do not
meet, so the entry tells which device it is. -/
def owner? (bus : Bus) (address : UInt64) : Option (Entry × UInt64) := do
  let (index, offset) ← bus.map.resolve address
  let entry ← bus.entries[index]?
  pure (entry, offset)

theorem Mapped.owner?_eq_some (h : bus.Mapped) {address offset : UInt64} {e : Entry} :
    bus.owner? address = some (e, offset) ↔
      e ∈ bus.entries ∧ e.Contains address ∧ offset = address - e.base := by
  constructor
  · intro found
    simp only [owner?, bind, Option.bind_eq_some_iff, pure, Option.some.injEq,
      Prod.mk.injEq] at found
    obtain ⟨⟨index, offset⟩, resolved, other, there, rfl, rfl⟩ := found
    obtain ⟨e, here, inE, offset_eq⟩ := h.contains_of_resolve resolved
    obtain rfl : other = e := Option.some.inj (there.symm.trans here)
    exact ⟨Array.mem_of_getElem? here, inE, offset_eq⟩
  · rintro ⟨mem, inE, rfl⟩
    obtain ⟨i, he⟩ := Array.getElem?_of_mem mem
    simp [owner?, h.resolve_of_contains he inE, he]

theorem Mapped.registerAll (h : bus.Mapped) {entries : List Entry}
    (admits : ∀ e ∈ entries, bus.Admits e) (apart : entries.Pairwise Entry.Apart) :
    ∃ bus', bus.registerAll entries = .ok bus' ∧ bus'.Mapped ∧
      bus'.entries.toList = bus.entries.toList ++ entries ∧ bus'.controller = bus.controller := by
  induction entries generalizing bus with
  | nil => exact ⟨bus, rfl, h, (List.append_nil _).symm, rfl⟩
  | cons entry rest ih =>
    obtain ⟨fromFirst, apart⟩ := List.pairwise_cons.1 apart
    obtain ⟨first, later⟩ := List.forall_mem_cons.1 admits
    obtain ⟨map, perm, registered⟩ := h.register_of_admits first
    have mapped := h.attempt entry
    rw [Bus.attempt, registered] at mapped
    have admitted (e : Entry) (he : e ∈ rest) :
        Admits { bus with entries := bus.entries.push entry, map } e := by
      refine ⟨(later e he).line, (later e he).range, fun other mem => ?_⟩
      rcases Array.mem_push.1 mem with mem | rfl
      · exact (later e he).apart other mem
      · exact fromFirst e he
    obtain ⟨bus', all, mapped', entries, controller⟩ := ih mapped admitted apart
    refine ⟨bus', ?_, mapped', ?_, controller⟩
    · rw [Bus.registerAll, List.foldlM_cons, registered]
      exact all
    · rw [entries, Array.toList_push, List.append_assoc]
      rfl

/-- Devices that could each be registered alone and do not meet can be registered in any order, and
an address then belongs to the same device, at the same offset. -/
def AnyOrder (bus : Bus) (entries : List Entry) : Prop :=
  ∀ order, order.Perm entries → ∃ bus₁ bus₂,
    bus.registerAll entries = .ok bus₁ ∧ bus.registerAll order = .ok bus₂ ∧
      bus₁.entries.toList = bus.entries.toList ++ entries ∧
      bus₂.entries.toList = bus.entries.toList ++ order ∧
      ∀ address, bus₂.owner? address = bus₁.owner? address ∧ ∀ e offset,
        bus₁.owner? address = some (e, offset) ↔
          (e ∈ bus.entries ∨ e ∈ entries) ∧ e.Contains address ∧ offset = address - e.base

theorem Mapped.anyOrder (h : bus.Mapped) {entries : List Entry}
    (admits : ∀ e ∈ entries, bus.Admits e) (apart : entries.Pairwise Entry.Apart) :
    bus.AnyOrder entries := by
  intro order perm
  obtain ⟨bus₁, all₁, mapped₁, entries₁, -⟩ := h.registerAll admits apart
  obtain ⟨bus₂, all₂, mapped₂, entries₂, -⟩ := h.registerAll
    (fun e he => admits e (perm.mem_iff.1 he)) ((perm.pairwise_iff Entry.Apart.symm).2 apart)
  have mem₁ (e : Entry) : e ∈ bus₁.entries ↔ e ∈ bus.entries ∨ e ∈ entries := by
    rw [← Array.mem_toList_iff, entries₁, List.mem_append, Array.mem_toList_iff]
  have mem₂ (e : Entry) : e ∈ bus₂.entries ↔ e ∈ bus.entries ∨ e ∈ entries := by
    rw [← Array.mem_toList_iff, entries₂, List.mem_append, Array.mem_toList_iff, perm.mem_iff]
  refine ⟨bus₁, bus₂, all₁, all₂, entries₁, entries₂, fun address => ⟨?_, fun e offset => ?_⟩⟩
  · refine Option.ext fun found => ?_
    obtain ⟨e, offset⟩ := found
    rw [mapped₁.owner?_eq_some, mapped₂.owner?_eq_some, mem₁, mem₂]
  · rw [mapped₁.owner?_eq_some, mem₁]

def accepted (bus : Bus) : List Entry → List Entry
  | [] => []
  | entry :: rest =>
    match bus.register entry with
    | .ok (_, bus) => entry :: bus.accepted rest
    | .error _ => bus.accepted rest

theorem registerAll_accepted (bus : Bus) (attempts : List Entry) :
    bus.registerAll (bus.accepted attempts) = .ok (attempts.foldl attempt bus) := by
  induction attempts generalizing bus with
  | nil => rfl
  | cons entry rest ih =>
    rw [List.foldl_cons, accepted, attempt]
    cases registered : bus.register entry with
    | ok r =>
      rw [Bus.registerAll, List.foldlM_cons, registered]
      exact ih r.2
    | error e => exact ih bus

/-- What every bus promises that devices have been registered with. It is the bus on which those
that it refused have never been tried. -/
theorem assemble_registrationContract (controller : InterruptController)
    (attempts : List Entry) :
    (∀ entry, (assemble controller attempts).RegistrationContract entry) ∧
      (∀ entries, (∀ e ∈ entries, (assemble controller attempts).Admits e) →
        entries.Pairwise Entry.Apart → (assemble controller attempts).AnyOrder entries) ∧
      registerAll { controller } (accepted { controller } attempts) =
        .ok (assemble controller attempts) :=
  ⟨(mapped_assemble controller attempts).registrationContract,
    fun _ => (mapped_assemble controller attempts).anyOrder, registerAll_accepted _ attempts⟩

def neighbours : List Entry :=
  [{ name := "low", base := 0x1000, size := 0x100, irq := some 31, device := .uart {} },
    { name := "next", base := 0x1100, size := 0x100, irq := none, device := .uart {} },
    { name := "top", base := 0xFFFFFFFFFFFFFF00, size := 0xFF, irq := none, device := .uart {} }]

theorem assemble_registrationContract_neighbours :
    (∀ e ∈ neighbours, (assemble (.withLines 32) []).Admits e) ∧
      neighbours.Pairwise Entry.Apart ∧ (assemble (.withLines 32) []).AnyOrder neighbours := by
  have fits : ∀ e ∈ neighbours, e.Fits := by simp [neighbours, Entry.Fits, UInt64.size]
  have lines : ∀ e ∈ neighbours, e.LineWithin (.withLines 32) := by
    have last : (31 : UInt32) < (InterruptController.withLines 32).lineCount := by decide
    simp [neighbours, Entry.LineWithin, last]
  have admits : ∀ e ∈ neighbours, (assemble (.withLines 32) []).Admits e :=
    fun e he => ⟨lines e he, fits e he, by simp [assemble]⟩
  have apart : neighbours.Pairwise Entry.Apart := by
    have free : neighbours.Pairwise fun a b =>
        ¬(a.mapping 0).overlaps b.base (b.base + b.size) = true := by
      simp only [neighbours, List.pairwise_cons, List.forall_mem_cons]
      decide
    refine free.imp_of_mem fun ha hb free => ?_
    rwa [(fits _ ha).overlaps_mapping (fits _ hb), not_not] at free
  exact ⟨admits, apart, (assemble_registrationContract _ []).2.1 neighbours admits apart⟩

end Bus

end BoardSim
