import BoardSim.Proofs.Bus.Routing
import BoardSim.Proofs.Peripheral.Extent

/-!
# The end of a range

The bus looks at the first address of an access only, and the device does not know how long its
range is. So an access that runs past the end of the range still operates on every register of a
word that it covers a byte of. It stays inside the range if no register has a byte of it beyond the
end (`ConfinementContract.confined`), as when the range holds the whole register table; in a range
of whole words it does so in no other case (`ConfinementContract.exact`).
-/

namespace BoardSim

open Peripheral (Operation SteadyLayout payloadByte wordOffset)

namespace Device

def operations (d : Device) (controller : InterruptController) (offset : UInt64)
    (size : AccessSize) (direction : Direction) (payload : UInt64) : List Operation :=
  (d.apply controller fun _ _ d => (Peripheral.operations d offset size direction payload, d)).1

/-- Whatever a device is, its interface is that of one peripheral with a layout of its own. -/
theorem exists_inner (d : Device) (controller : InterruptController) :
    ∃ (δ : Type) (_ : Peripheral δ) (inner : δ) (outer : δ → Device × InterruptController),
      SteadyLayout δ ∧ Peripheral.layout inner = d.layout ∧
        ∀ {β : Type} (f : (δ : Type) → [Peripheral δ] → δ → β × δ),
          d.apply controller f = ((f δ inner).1, outer (f δ inner).2) := by
  cases d with
  | view v =>
    exact ⟨MappedController, inferInstance, ⟨v, controller⟩, fun m => (.view m.view, m.controller),
      ⟨⟨fun _ _ => rfl, fun _ _ _ => rfl⟩, fun _ _ _ => rfl⟩, rfl, fun _ => rfl⟩
  | uart u => exact ⟨Uart, inferInstance, u, fun u => (.uart u, controller),
      ⟨⟨fun _ _ => rfl, fun _ _ _ => rfl⟩, fun _ _ _ => rfl⟩, rfl, fun _ => rfl⟩
  | timer t => exact ⟨Timer, inferInstance, t, fun t => (.timer t, controller),
      ⟨⟨fun _ _ => rfl, fun _ _ _ => rfl⟩, fun _ _ _ => rfl⟩, rfl, fun _ => rfl⟩
  | adc a => exact ⟨Adc, inferInstance, a, fun a => (.adc a, controller),
      ⟨⟨fun _ _ => rfl, fun _ _ _ => rfl⟩, fun _ _ _ => rfl⟩, rfl, fun _ => rfl⟩
  | rtc r => exact ⟨Rtc, inferInstance, r, fun r => (.rtc r, controller),
      ⟨⟨fun _ _ => rfl, fun _ _ _ => rfl⟩, fun _ _ _ => rfl⟩, rfl, fun _ => rfl⟩
  | spi s => exact ⟨Spi, inferInstance, s, fun s => (.spi s, controller),
      ⟨⟨fun _ _ => rfl, fun _ _ _ => rfl⟩, fun _ _ _ => rfl⟩, rfl, fun _ => rfl⟩
  | sysTick s => exact ⟨SysTick, inferInstance, s, fun s => (.sysTick s, controller),
      ⟨⟨fun _ _ => rfl, fun _ _ _ => rfl⟩, fun _ _ _ => rfl⟩, rfl, fun _ => rfl⟩
  | can c => exact ⟨Can.Controller, inferInstance, c, fun c => (.can c, controller),
      ⟨⟨fun _ _ => rfl, fun _ _ _ => rfl⟩, fun _ _ _ => rfl⟩, rfl, fun _ => rfl⟩
  | scratch s => exact ⟨Scratch, inferInstance, s, fun s => (.scratch s, controller),
      ⟨⟨fun _ _ => rfl, fun _ _ _ => rfl⟩, fun _ _ _ => rfl⟩, rfl, fun _ => rfl⟩

section
variable (d : Device) (controller : InterruptController) (offset : UInt64) (size : AccessSize)

theorem exists_operation_iff (direction : Direction) (payload : UInt64) (i : Nat) :
    (∃ operation ∈ d.operations controller offset size direction payload,
      operation.register = i) ↔
        ∃ k < size.bytes, d.layout.indexOf? (wordOffset (offset + UInt64.ofNat k)) = some i := by
  obtain ⟨δ, _, inner, outer, steady, layout, apply⟩ := d.exists_inner controller
  have same : d.operations controller offset size direction payload =
      Peripheral.operations inner offset size direction payload := congrArg Prod.fst (apply _)
  rw [same, ← layout]
  exact Peripheral.exists_operation_iff steady inner offset size direction payload i

variable {d offset size}

theorem payloadByte_access_of_none {k : Nat} (small : k < 8)
    (none : d.layout.indexOf? (wordOffset (offset + UInt64.ofNat k)) = none) (payload : UInt64) :
    payloadByte (d.access controller offset size .read payload).1 k = 0 := by
  obtain ⟨δ, _, inner, outer, steady, layout, apply⟩ := d.exists_inner controller
  have same : (d.access controller offset size .read payload).1 =
      (Peripheral.load inner offset size).1 := congrArg Prod.fst (apply _)
  rw [← layout] at none
  rw [same]
  exact Peripheral.payloadByte_load_of_none steady.toSteadyReads small none

theorem access_write_congr {v w : UInt64}
    (agree : Peripheral.AgreeOnRegisters d.layout offset size v w) :
    d.access controller offset size .write v = d.access controller offset size .write w := by
  obtain ⟨δ, _, inner, outer, steady, layout, apply⟩ := d.exists_inner controller
  rw [← layout] at agree
  have same : Peripheral.access inner offset size .write v =
      Peripheral.access inner offset size .write w :=
    congrArg (Prod.mk 0) (Peripheral.store_congr_of_registers steady agree)
  rw [access, access, apply, apply, same]

end

end Device

-- ---------------------------------------------------------------------------
-- The bytes of an access
-- ---------------------------------------------------------------------------

namespace Entry

def Covers (e : Entry) (address : UInt64) (k : Nat) : Prop :=
  address.toNat + k < e.base.toNat + e.size.toNat

/-- The register, if any, in whose word the device looks for byte `k` of the access. -/
def registerAt? (e : Entry) (address : UInt64) (k : Nat) : Option Nat :=
  e.device.layout.indexOf? (wordOffset (address - e.base + UInt64.ofNat k))

/-- No register has a byte of the access beyond the end of the range. -/
def Ends (e : Entry) (address : UInt64) (size : AccessSize) : Prop :=
  ∀ k < size.bytes, ¬e.Covers address k → e.registerAt? address k = none

variable {e : Entry} {address : UInt64} {size : AccessSize} {i k k' : Nat} {r : Register}

instance (e : Entry) (address : UInt64) (k : Nat) : Decidable (e.Covers address k) :=
  inferInstanceAs (Decidable (_ < _))

theorem Contains.toNat_sub (inE : e.Contains address) :
    (address - e.base).toNat = address.toNat - e.base.toNat :=
  UInt64.toNat_sub_of_le _ _ (UInt64.le_iff_toNat_le.2 inE.1)

/-- Where there is no wrapping, the word of a register begins at or before its bytes. -/
theorem offset_of_registerAt? (found : e.registerAt? address k = some i)
    (there : e.device.layout[i]? = some r) :
    r.offset = wordOffset (address - e.base + UInt64.ofNat k) := by
  have offset := Layout.offset_of_indexOf? found
  rw [there] at offset
  exact Option.some.inj offset

theorem offset_lt_of_covers (inE : e.Contains address) (covers : e.Covers address k)
    (found : e.registerAt? address k = some i) (there : e.device.layout[i]? = some r) :
    r.offset < e.size := by
  have bound := e.size.toNat_lt
  have start := inE.toNat_sub
  obtain ⟨low, -⟩ := inE
  unfold Covers at covers
  rw [offset_of_registerAt? found there, UInt64.lt_iff_toNat_lt, Peripheral.toNat_wordOffset,
    Peripheral.toNat_add_ofNat (by omega), start]
  omega

/-- A byte before the end of whole words and one beyond are in different words. -/
theorem ne_of_covers (inE : e.Contains address) (whole : e.size % 4 = 0) (hk : k < 8)
    (hk' : k' < 8) (covers : e.Covers address k) (beyond : ¬e.Covers address k')
    (found : e.registerAt? address k = some i) : e.registerAt? address k' ≠ some i := by
  intro found'
  have word := Layout.offset_of_indexOf? found
  rw [Layout.offset_of_indexOf? found', Option.some.injEq, Peripheral.wordOffset_eq_iff,
    UInt64.toNat_add, UInt64.toNat_add, UInt64.toNat_ofNat', UInt64.toNat_ofNat',
    inE.toNat_sub] at word
  have multiple := congrArg UInt64.toNat whole
  rw [Peripheral.toNat_mod_four, UInt64.toNat_zero] at multiple
  have bound := e.size.toNat_lt
  have bound' := address.toNat_lt
  obtain ⟨low, high⟩ := inE
  unfold Covers at covers beyond
  omega

theorem ends_of_inside (inside : address.toNat + size.bytes ≤ e.base.toNat + e.size.toNat) :
    e.Ends address size := by
  intro k hk beyond
  unfold Covers at beyond
  omega

/-- Past the end there is no register if the range holds all of them. -/
theorem ends_of_table (inE : e.Contains address)
    (held : ∀ r ∈ e.device.layout, r.offset.toNat + 4 ≤ e.size.toNat)
    (straight : (address - e.base).toNat + size.bytes ≤ UInt64.size) : e.Ends address size := by
  intro k hk beyond
  refine Option.eq_none_iff_forall_ne_some.2 fun i found => ?_
  obtain ⟨r, there⟩ : ∃ r, e.device.layout[i]? = some r :=
    ⟨_, List.getElem?_eq_getElem (Layout.indexOf?_lt found)⟩
  have fits := held r (List.mem_of_getElem? there)
  unfold UInt64.size at straight
  rw [offset_of_registerAt? found there, Peripheral.toNat_wordOffset,
    Peripheral.toNat_add_ofNat (by omega), inE.toNat_sub] at fits
  obtain ⟨low, -⟩ := inE
  unfold Covers at beyond
  omega

end Entry

-- ---------------------------------------------------------------------------
-- The contract
-- ---------------------------------------------------------------------------

namespace Bus

/-- An access of `size` that begins at `address`, in the range of `e`, stays inside the range. -/
structure Confines (bus : Bus) (e : Entry) (address : UInt64) (size : AccessSize) : Prop where
  registers : ∀ direction payload,
    ∀ operation ∈ e.device.operations bus.controller (address - e.base) size direction payload,
      ∀ r, e.device.layout[operation.register]? = some r → r.offset < e.size
  served : ∀ direction payload,
    ∀ operation ∈ e.device.operations bus.controller (address - e.base) size direction payload,
      ∃ k < size.bytes, e.Covers address k ∧ e.registerAt? address k = some operation.register
  zeros : ∀ payload, ∀ k < size.bytes, ¬e.Covers address k →
    payloadByte (bus.access address size .read payload).1 k = 0
  ignored : ∀ v w, (∀ k < size.bytes, e.Covers address k → payloadByte v k = payloadByte w k) →
    bus.access address size .write v = bus.access address size .write w

structure ConfinementContract (bus : Bus) (e : Entry) (address : UInt64) (size : AccessSize) :
    Prop where
  reached : ∀ direction payload i,
    (∃ operation ∈ e.device.operations bus.controller (address - e.base) size direction payload,
      operation.register = i) ↔ ∃ k < size.bytes, e.registerAt? address k = some i
  confined : e.Ends address size → bus.Confines e address size
  exact : e.size % 4 = 0 → (bus.Confines e address size ↔ e.Ends address size)
  inside : address.toNat + size.bytes ≤ e.base.toNat + e.size.toNat → bus.Confines e address size
  /-- A range that holds all of the registers confines every access but those that wrap around. -/
  table : (∀ r ∈ e.device.layout, r.offset.toNat + 4 ≤ e.size.toNat) →
    (address - e.base).toNat + size.bytes ≤ UInt64.size → bus.Confines e address size

variable {bus : Bus} {index : Nat} {e : Entry} {address : UInt64}

theorem Mapped.confines_of_ends (h : bus.Mapped) (here : bus.entries[index]? = some e)
    (inE : e.Contains address) {size : AccessSize} (ends : e.Ends address size) :
    bus.Confines e address size := by
  have short : size.bytes ≤ 8 := by cases size <;> decide
  have serves (direction : Direction) (payload : UInt64) (operation : Operation)
      (mem : operation ∈
        e.device.operations bus.controller (address - e.base) size direction payload) :
      ∃ k < size.bytes, e.Covers address k ∧ e.registerAt? address k = some operation.register := by
    obtain ⟨k, inside, found⟩ := (e.device.exists_operation_iff bus.controller _ size direction
      payload operation.register).1 ⟨operation, mem, rfl⟩
    refine ⟨k, inside, Decidable.byContradiction fun beyond => ?_, found⟩
    exact Option.some_ne_none _ (found.symm.trans (ends k inside beyond))
  refine ⟨fun direction payload operation mem r there => ?_, serves,
    fun payload k inside beyond => ?_, fun v w agree => ?_⟩
  · obtain ⟨k, -, covers, found⟩ := serves direction payload operation mem
    exact Entry.offset_lt_of_covers inE covers found there
  · rw [h.access_of_contains here inE]
    exact Device.payloadByte_access_of_none _ (by omega) (ends k inside beyond) payload
  · have agreed : Peripheral.AgreeOnRegisters e.device.layout (address - e.base) size v w :=
      fun k inside found =>
        agree k inside (Decidable.byContradiction fun beyond => found (ends k inside beyond))
    rw [h.access_of_contains here inE, h.access_of_contains here inE,
      Device.access_write_congr _ agreed]

theorem Confines.ends {size : AccessSize} (confines : bus.Confines e address size)
    (inE : e.Contains address) (whole : e.size % 4 = 0) : e.Ends address size := by
  have short : size.bytes ≤ 8 := by cases size <;> decide
  intro k inside beyond
  refine Option.eq_none_iff_forall_ne_some.2 fun i found => ?_
  obtain ⟨operation, mem, rfl⟩ := (e.device.exists_operation_iff bus.controller (address - e.base)
    size .read 0 i).2 ⟨k, inside, found⟩
  obtain ⟨k', inside', covers, found'⟩ := confines.served .read 0 operation mem
  exact Entry.ne_of_covers inE whole (by omega) (by omega) covers beyond found' found

theorem assemble_confinementContract (controller : InterruptController) (attempts : List Entry)
    {index : Nat} {e : Entry} (here : (assemble controller attempts).entries[index]? = some e)
    {address : UInt64} (inE : e.Contains address) (size : AccessSize) :
    ConfinementContract (assemble controller attempts) e address size := by
  have mapped := mapped_assemble controller attempts
  have confined := fun ends : e.Ends address size => mapped.confines_of_ends here inE ends
  constructor
  case reached => exact e.device.exists_operation_iff _ _ size
  case confined => exact confined
  case exact => exact fun whole => ⟨fun confines => confines.ends inE whole, confined⟩
  case inside => exact fun inside => confined (Entry.ends_of_inside inside)
  case table => exact fun held straight => confined (Entry.ends_of_table inE held straight)

/-- A timer whose range ends before its last register, `ARR`, which lies at offset `0x2C`. -/
def clippedTimer : Entry :=
  { name := "tim", base := 0x40000000, size := 44, irq := none, device := .timer (.withClock 1000) }

/-- Reading the last word of the range by itself stays inside. -/
theorem assemble_confinementContract_clippedTimer :
    let bus := assemble (.withLines 32) [clippedTimer]
    bus.entries[0]? = some clippedTimer ∧ clippedTimer.Contains 0x40000028 ∧
      ConfinementContract bus clippedTimer 0x40000028 .word ∧
      bus.Confines clippedTimer 0x40000028 .word := by
  intro bus
  have here : bus.entries[0]? = some clippedTimer := rfl
  have inE : clippedTimer.Contains 0x40000028 := by
    unfold Entry.Contains
    decide
  have contract := assemble_confinementContract (.withLines 32) [clippedTimer] here inE .word
  exact ⟨here, inE, contract, contract.inside (by decide)⟩

/-- With the word after it, the access shows `ARR`, at an address that belongs to no device. -/
theorem not_confines_of_clipped_timer :
    let bus := assemble (.withLines 32) [clippedTimer]
    bus.entries[0]? = some clippedTimer ∧ clippedTimer.Contains 0x40000028 ∧
      bus.access 0x4000002C .word .read 0 = (0, bus) ∧
      (bus.access 0x40000028 .double .read 0).1 = 0xFFFF00000000 ∧
      ¬bus.Confines clippedTimer 0x40000028 .double := by
  intro bus
  have shown : (bus.access 0x40000028 .double .read 0).1 = 0xFFFF00000000 := by decide +kernel
  refine ⟨rfl, by unfold Entry.Contains; decide, rfl, shown, fun confines => ?_⟩
  have zero := confines.zeros 0 4 (by decide) (by unfold Entry.Covers; decide)
  rw [shown] at zero
  revert zero
  decide

end Bus

end BoardSim
