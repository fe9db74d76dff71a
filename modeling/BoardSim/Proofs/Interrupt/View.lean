import Mathlib
import BoardSim.Proofs.Interrupt.Recording
import BoardSim.Proofs.Peripheral.ByteMemory
import BoardSim.Proofs.Peripheral.Reach

/-!
# The view and its controller

A register of the view is told from its offset alone, so what a word access does is fixed by where
its register lies: `access_write_place` and `access_read_place` say it for every bank of every
controller. Up to 32 banks this is what the register's name promises and the view is faithful; with
more banks two registers share an offset (`not_viewFaithful_of_lt_banks`).
-/

namespace BoardSim

/-- Where names are unique a name finds its register. -/
theorem Layout.find?_of_getElem? {layout : Layout} (unique : (layout.map Register.name).Nodup)
    {i : Nat} {r : Register} (h : layout[i]? = some r) : layout.find? r.name = some (i, r) := by
  induction layout generalizing i with
  | nil => simp at h
  | cons r' rest ih =>
    rw [List.map_cons, List.nodup_cons] at unique
    cases i with
    | zero =>
      cases h
      exact if_pos rfl
    | succ i =>
      rw [List.getElem?_cons_succ] at h
      have later : r'.name ≠ r.name := fun same =>
        unique.1 (same ▸ List.mem_map_of_mem (List.mem_of_getElem? h))
      rw [find?, if_neg later, ih unique.2 h]
      rfl

namespace InterruptView

namespace Group

def next : Group → Group
  | setEnable => clearEnable
  | clearEnable => setPending
  | setPending | clearPending => clearPending

theorem nodup_all : all.Nodup := by decide

theorem mem_all (group : Group) : group ∈ all := by
  cases group <;> decide

theorem length_label (group : Group) : group.label.toList.length = 4 := by
  cases group <;> simp [label]

theorem label_inj {group group' : Group} (h : group.label = group'.label) : group = group' := by
  cases group <;> cases group' <;> simp [label] at h ⊢

end Group

def place (group : Group) (n : Nat) : UInt64 := group.base + UInt64.ofNat (n * 4)

def register (group : Group) (n : Nat) : Register where
  name := group.label ++ toString n
  offset := place group n

theorem layout_eq (banks : Nat) :
    layout banks = Group.all.flatMap fun group => (List.range banks).map (register group) := rfl

theorem register_mem_layout {banks n : Nat} (group : Group) (hn : n < banks) :
    register group n ∈ layout banks := by
  rw [layout_eq, List.mem_flatMap]
  exact ⟨group, group.mem_all, List.mem_map_of_mem (List.mem_range.2 hn)⟩

theorem onRead_of_mem_layout {banks : Nat} {r : Register} (h : r ∈ layout banks) :
    r.onRead = .keep := by
  rw [layout_eq, List.mem_flatMap] at h
  obtain ⟨group, -, h⟩ := h
  obtain ⟨n, -, rfl⟩ := List.mem_map.1 h
  rfl

theorem nodup_map_layout {α : Type} {f : Register → α} {banks : Nat}
    (inj : ∀ group n group' n', n < banks → n' < banks →
      f (register group n) = f (register group' n') → group = group' ∧ n = n') :
    ((layout banks).map f).Nodup := by
  rw [layout_eq, List.map_flatMap, List.nodup_flatMap]
  constructor
  · intro group _
    rw [List.map_map]
    refine List.Nodup.map_on (fun n hn n' hn' same => ?_) List.nodup_range
    exact (inj group n group n' (List.mem_range.1 hn) (List.mem_range.1 hn') same).2
  · refine Group.nodup_all.imp fun {group group'} distinct => ?_
    intro x hx hx'
    simp only [List.map_map, List.mem_map, List.mem_range, Function.comp_apply] at hx hx'
    obtain ⟨n, hn, rfl⟩ := hx
    obtain ⟨n', hn', same⟩ := hx'
    exact distinct (inj group n group' n' hn hn' same.symm).1

theorem nodup_names (banks : Nat) : ((layout banks).map Register.name).Nodup := by
  refine nodup_map_layout fun group n group' n' _ _ same => ?_
  have spelled := congrArg String.toList same
  simp only [register, String.toList_append] at spelled
  have width := group.length_label.trans group'.length_label.symm
  obtain ⟨labels, digits⟩ := List.append_inj spelled width
  exact ⟨Group.label_inj (String.toList_inj.1 labels), Nat.repr_inj.1 (String.toList_inj.1 digits)⟩

-- ---------------------------------------------------------------------------
-- Decoding
-- ---------------------------------------------------------------------------

/-- Every 32 banks a register runs into the next group. -/
theorem decode_place (group : Group) {n : Nat} (hn : n < 128) :
    Group.ofOffset (place group n) = Group.next^[n / 32] group ∧
      bankAt (place group n) = n % 32 := by
  -- four groups of 128 offsets each, so the table is finite
  have table : ∀ group ∈ Group.all, ∀ n < 128,
      Group.ofOffset (place group n) = Group.next^[n / 32] group ∧
        bankAt (place group n) = n % 32 := by decide +kernel
  exact table group group.mem_all n hn

theorem place_aligned (group : Group) (n : Nat) : place group n % 4 = 0 := by
  apply UInt64.toNat_inj.1
  cases group <;>
    simp only [place, Group.base, UInt64.toNat_mod, UInt64.toNat_add, UInt64.toNat_ofNat',
      UInt64.reduceToNat] <;>
    omega

/-- In the first 32 banks no two registers share an offset. -/
theorem place_inj {group group' : Group} {n n' : Nat} (hn : n < 32) (hn' : n' < 32)
    (same : place group n = place group' n') : group = group' ∧ n = n' := by
  obtain ⟨g, b⟩ := decode_place group (Nat.lt_trans hn (by decide))
  obtain ⟨g', b'⟩ := decode_place group' (Nat.lt_trans hn' (by decide))
  rw [Nat.div_eq_of_lt hn] at g
  rw [Nat.div_eq_of_lt hn'] at g'
  rw [Nat.mod_eq_of_lt hn] at b
  rw [Nat.mod_eq_of_lt hn'] at b'
  exact ⟨g.symm.trans (same ▸ g'), b.symm.trans (same ▸ b')⟩

end InterruptView

namespace InterruptController

open InterruptView (Group place register bankAt)

def mapped (c : InterruptController) : MappedController := ⟨{ banks := c.banks }, c⟩

/-- What the registers of a group show: both of a pair show the word they change. -/
def shown (c : InterruptController) : Group → Nat → UInt32
  | .setEnable, n | .clearEnable, n => c.enabled.bank n
  | .setPending, n | .clearPending, n => c.pending.bank n

theorem banks_le_128 (c : InterruptController) : c.banks ≤ 128 := by
  have := c.banks_le
  simp only [linesPerBank, maxLines] at this
  omega

-- ---------------------------------------------------------------------------
-- Word accesses
-- ---------------------------------------------------------------------------

theorem indexOf?_place {banks n : Nat} (group : Group) (hn : n < banks) :
    ∃ i, (InterruptView.layout banks).indexOf? (place group n) = some i := by
  refine Option.ne_none_iff_exists'.1 fun missing => ?_
  exact Layout.indexOf?_eq_none.1 missing _ (InterruptView.register_mem_layout group hn) rfl

theorem decode_mapped {c : InterruptController} {offset : UInt64} {i : Nat}
    (found : (InterruptView.layout c.banks).indexOf? offset = some i) :
    c.mapped.decode i = (.ofOffset offset, bankAt offset) := by
  have there := Layout.offset_of_indexOf? found
  simp only [MappedController.decode, mapped, there, Option.getD_some]

section
variable (c : InterruptController) (group : Group) {n : Nat} (hn : n < c.banks)
include hn

/-- A word written where the register of bank `n` lies acts on the group and the bank that the
offset decodes to. -/
theorem access_write_place (word : UInt32) :
    Peripheral.access c.mapped (place group n) .word .write word.toUInt64 =
      (0, (c.writeGroup (Group.next^[n / 32] group) (n % 32) word).mapped) := by
  obtain ⟨i, found⟩ := indexOf?_place group hn
  have place_eq := InterruptView.decode_place group (Nat.lt_of_lt_of_le hn c.banks_le_128)
  have decoded := decode_mapped found
  rw [place_eq.1, place_eq.2] at decoded
  have committed : c.mapped.commit i word =
      (c.writeGroup (Group.next^[n / 32] group) (n % 32) word).mapped := by
    simp only [MappedController.commit, decoded]
    cases Group.next^[n / 32] group <;> rfl
  rw [Peripheral.access_write_word (InterruptView.place_aligned group n),
    UInt32.toUInt32_toUInt64, Peripheral.write]
  simp only [show Peripheral.layout c.mapped = InterruptView.layout c.banks from rfl, found]
  exact congrArg (Prod.mk 0) committed

theorem access_read_place (payload : UInt64) :
    Peripheral.access c.mapped (place group n) .word .read payload =
      ((c.shown (Group.next^[n / 32] group) (n % 32)).toUInt64, c.mapped) := by
  obtain ⟨i, found⟩ := indexOf?_place group hn
  have place_eq := InterruptView.decode_place group (Nat.lt_of_lt_of_le hn c.banks_le_128)
  have decoded := decode_mapped found
  rw [place_eq.1, place_eq.2] at decoded
  have fetched : c.mapped.fetch i = (c.shown (Group.next^[n / 32] group) (n % 32), c.mapped) := by
    simp only [MappedController.fetch, decoded]
    cases Group.next^[n / 32] group <;> rfl
  have settled : Peripheral.settle c.mapped i = c.mapped :=
    Peripheral.settle_of_keep (fun _ => InterruptView.onRead_of_mem_layout) i
  rw [Peripheral.access_read_word (InterruptView.place_aligned group n), Peripheral.read]
  simp only [show Peripheral.layout c.mapped = InterruptView.layout c.banks from rfl, found,
    show Peripheral.fetch c.mapped i = c.mapped.fetch i from rfl, fetched, settled]

end

/-- `line` is line `32 * n + i` for a bit `i` that is set in `word`. -/
def Names (n : Nat) (word line : UInt32) : Prop :=
  ∃ i < 32, line.toNat = 32 * n + i ∧ word.toNat.testBit i = true

theorem selects_eq_true {n : Nat} {word line : UInt32} :
    LineSet.selects n word line = true ↔ Names n word line := by
  have bank : LineSet.bankOf line = line.toNat / 32 := by
    rw [LineSet.bankOf, UInt32.toNat_div]
    rfl
  have bit : word.toBitVec.getLsbD (line.toNat % 32) = word.toNat.testBit (line.toNat % 32) := rfl
  rw [LineSet.selects, LineSet.and_bitOf, bank, bit, Bool.and_eq_true, beq_iff_eq]
  constructor
  · rintro ⟨rfl, set⟩
    exact ⟨line.toNat % 32, Nat.mod_lt _ (by decide), (Nat.div_add_mod _ _).symm, set⟩
  · rintro ⟨i, hi, place, set⟩
    have same : line.toNat % 32 = i := by omega
    exact ⟨by omega, same ▸ set⟩

theorem isEnabled_writeGroup (c : InterruptController) (group : Group) {n : Nat} (hn : n < c.banks)
    (word line : UInt32) :
    (c.writeGroup group n word).isEnabled line = true ↔
      (c.isEnabled line = true ∧ ¬(group = .clearEnable ∧ Names n word line)) ∨
        group = .setEnable ∧ Names n word line := by
  cases group <;>
    simp [writeGroup, isEnabled, LineSet.has_setMask, LineSet.has_clearMask, hn,
      ← selects_eq_true]

theorem isPending_writeGroup (c : InterruptController) (group : Group) {n : Nat} (hn : n < c.banks)
    (word line : UInt32) :
    (c.writeGroup group n word).isPending line = true ↔
      (c.isPending line = true ∧ ¬(group = .clearPending ∧ Names n word line)) ∨
        group = .setPending ∧ Names n word line := by
  cases group <;>
    simp [writeGroup, isPending, LineSet.has_setMask, LineSet.has_clearMask, hn,
      ← selects_eq_true]

-- ---------------------------------------------------------------------------
-- Faithfulness
-- ---------------------------------------------------------------------------

structure ViewFaithful (c : InterruptController) : Prop where
  answers : ∀ group n, n < c.banks → ∃ i,
    (InterruptView.layout c.banks).find? (group.label ++ toString n) =
        some (i, { name := group.label ++ toString n, offset := place group n }) ∧
      (InterruptView.layout c.banks).indexOf? (place group n) = some i
  distinct : ∀ group n group' n', n < c.banks → n' < c.banks →
    place group n = place group' n' → group = group' ∧ n = n'
  written : ∀ group n word, n < c.banks →
    let after := Peripheral.access c.mapped (place group n) .word .write word.toUInt64
    after.1 = 0 ∧ after.2.view = c.mapped.view ∧ ∀ line,
      (after.2.controller.isEnabled line = true ↔
        (c.isEnabled line = true ∧ ¬(group = .clearEnable ∧ Names n word line)) ∨
          group = .setEnable ∧ Names n word line) ∧
      (after.2.controller.isPending line = true ↔
        (c.isPending line = true ∧ ¬(group = .clearPending ∧ Names n word line)) ∨
          group = .setPending ∧ Names n word line)
  read : ∀ group n payload, n < c.banks →
    Peripheral.access c.mapped (place group n) .word .read payload =
      ((c.shown group n).toUInt64, c.mapped)

theorem viewFaithful_of_banks_le {c : InterruptController} (few : c.banks ≤ 32) :
    c.ViewFaithful where
  answers group n hn := by
    obtain ⟨i, hi⟩ := List.getElem?_of_mem (InterruptView.register_mem_layout group hn)
    have offsets : ((InterruptView.layout c.banks).map Register.offset).Nodup :=
      InterruptView.nodup_map_layout fun group n group' n' hn hn' =>
        InterruptView.place_inj (Nat.lt_of_lt_of_le hn few) (Nat.lt_of_lt_of_le hn' few)
    refine ⟨i, Layout.find?_of_getElem? (InterruptView.nodup_names c.banks) hi, ?_⟩
    rw [Layout.indexOf?_eq_some offsets, hi]
    rfl
  distinct group n group' n' hn hn' :=
    InterruptView.place_inj (Nat.lt_of_lt_of_le hn few) (Nat.lt_of_lt_of_le hn' few)
  written group n word hn := by
    have inside : n < 32 := Nat.lt_of_lt_of_le hn few
    rw [access_write_place c group hn, Nat.div_eq_of_lt inside, Nat.mod_eq_of_lt inside]
    refine ⟨rfl, ?_, fun line => ⟨?_, ?_⟩⟩
    · cases group <;> rfl
    · exact isEnabled_writeGroup c group hn word line
    · exact isPending_writeGroup c group hn word line
  read group n payload hn := by
    have inside : n < 32 := Nat.lt_of_lt_of_le hn few
    rw [access_read_place c group hn, Nat.div_eq_of_lt inside, Nat.mod_eq_of_lt inside]
    cases group <;> rfl

theorem not_viewFaithful_of_lt_banks {c : InterruptController} (many : 32 < c.banks) :
    ¬c.ViewFaithful := by
  intro faithful
  -- the register of bank 32 lies where the next group begins
  have shared : place .setEnable 32 = place .clearEnable 0 := by decide
  cases (faithful.distinct .setEnable 32 .clearEnable 0 many c.banks_pos shared).1

/-- The banks of one group fit between it and the next up to line 1023. -/
theorem viewFaithful_iff_lineCount_le (c : InterruptController) :
    c.ViewFaithful ↔ c.lineCount ≤ 1024 := by
  have few : c.lineCount ≤ 1024 ↔ c.banks ≤ 32 := by
    rw [UInt32.le_iff_toNat_le, toNat_lineCount]
    simp only [UInt32.reduceToNat]
    omega
  rw [few]
  constructor
  · intro faithful
    exact Nat.le_of_not_lt fun many => not_viewFaithful_of_lt_banks many faithful
  · exact viewFaithful_of_banks_le

/-- With one bank too many, the register that should enable line 1024 disables line 0. -/
theorem not_viewFaithful_of_33_banks :
    let c := (withLines 1056).setEnabled 0 true
    let after := (Peripheral.access c.mapped 0x80 .word .write 1).2.controller
    ((InterruptView.layout c.banks).find? "ISER32").map (·.2.offset) = some 0x80 ∧
      c.isEnabled 0 = true ∧ after.isEnabled 0 = false ∧ after.isEnabled 1024 = false ∧
      ¬c.ViewFaithful :=
  ⟨by decide +kernel, by decide +kernel, by decide +kernel, by decide +kernel,
    not_viewFaithful_of_lt_banks (by decide)⟩

end InterruptController

end BoardSim
