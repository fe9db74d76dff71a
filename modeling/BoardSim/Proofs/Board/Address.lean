import Mathlib.Data.List.Chain
import BoardSim.Board.GrowthChamber
import BoardSim.Proofs.Board.Build
import BoardSim.Proofs.Bus.Word
import BoardSim.Proofs.Interrupt.View

/-!
# Addresses of registers

The address of a register is the base of its device plus the offset that the model gives it, while
accesses go by the range that the board maps. The address therefore leads to the register exactly if
the mapped size reaches past the register's offset (`AddressContract.usable`), which the default
size always does. A view of more than 1024 lines is the one device in which a register can lose its
offset to another.
-/

namespace BoardSim

-- ---------------------------------------------------------------------------
-- Layouts
-- ---------------------------------------------------------------------------

def modelLayouts : List Layout :=
  [Uart.layout, Timer.layout, Adc.layout, Rtc.layout, Spi.layout, SysTick.layout,
    Can.Controller.layout]

theorem nodup_offsets_of_model {layout : Layout} (model : layout ∈ modelLayouts) :
    (layout.map Register.offset).Nodup := by
  -- comparing neighbours is enough, since the registers are listed by offset
  have listed : ∀ l ∈ modelLayouts, (l.map (·.offset.toNat)).IsChain (· < ·) := by decide +kernel
  have increasing := List.isChain_iff_pairwise.1 (listed layout model)
  rw [List.pairwise_map] at increasing
  exact List.pairwise_map.2 (increasing.imp fun lt same => Nat.ne_of_lt lt (congrArg _ same))

namespace DeviceEntry

variable {d : DeviceEntry} {controller : InterruptController} {device : Device}

theorem layout_of_build (built : d.build controller = .ok device) :
    device.layout ∈ modelLayouts ∨
      d.kind = "nvic" ∧ device.layout = InterruptView.layout controller.banks := by
  unfold build at built
  simp only [bind, Except.bind, pure, Except.pure] at built
  split at built
  case h_8 kind =>
    cases built
    exact .inr ⟨kind, rfl⟩
  case h_9 => cases built
  all_goals
    first
    | (cases built; exact .inl (by simp [modelLayouts, Device.layout]))
    | (split at built
       · cases built
       · cases built; exact .inl (by simp [modelLayouts, Device.layout]))

theorem aligned_and_lt_of_build (built : d.build controller = .ok device) {r : Register}
    (mem : r ∈ device.layout) : r.offset % 4 = 0 ∧ r.offset < defaultSize := by
  rcases layout_of_build built with model | ⟨-, view⟩
  · have checked : ∀ l ∈ modelLayouts, ∀ r ∈ l, r.offset % 4 = 0 ∧ r.offset < defaultSize := by
      decide +kernel
    exact checked _ model r mem
  · rw [view, InterruptView.layout_eq, List.mem_flatMap] at mem
    obtain ⟨group, -, mem⟩ := mem
    obtain ⟨n, hn, rfl⟩ := List.mem_map.1 mem
    refine ⟨InterruptView.place_aligned group n, ?_⟩
    have few := controller.banks_le_128
    have below := List.mem_range.1 hn
    cases group <;>
      simp [InterruptView.register, InterruptView.place, InterruptView.Group.base, defaultSize,
        UInt64.lt_iff_toNat_lt] <;>
      omega

theorem answers_of_build (built : d.build controller = .ok device)
    (few : d.kind = "nvic" → controller.lineCount ≤ 1024) {i : Nat} {r : Register}
    (there : device.layout[i]? = some r) : device.layout.indexOf? r.offset = some i := by
  have distinct : (device.layout.map Register.offset).Nodup := by
    rcases layout_of_build built with model | ⟨kind, view⟩
    · exact nodup_offsets_of_model model
    · have banks : controller.banks ≤ 32 := by
        have := few kind
        rw [UInt32.le_iff_toNat_le, InterruptController.toNat_lineCount] at this
        simp only [UInt32.reduceToNat] at this
        omega
      rw [view]
      exact InterruptView.nodup_map_layout fun group n group' n' hn hn' =>
        InterruptView.place_inj (Nat.lt_of_lt_of_le hn banks) (Nat.lt_of_lt_of_le hn' banks)
  rw [Layout.indexOf?_eq_some distinct, there]
  rfl

/-- Where two registers share an offset, their names still tell them apart. -/
theorem eq_of_same_register (built : d.build controller = .ok device) {i j : Nat} {r r' : Register}
    (hi : device.layout[i]? = some r) (hj : device.layout[j]? = some r')
    (name : r'.name = r.name) (offset : r'.offset = r.offset) : j = i := by
  rcases layout_of_build built with model | ⟨-, view⟩
  · have distinct := nodup_offsets_of_model model
    obtain ⟨lt, -⟩ := List.getElem?_eq_some_iff.1 hj
    refine (List.getElem?_inj (by simpa using lt) distinct).1 ?_
    rw [List.getElem?_map, List.getElem?_map, hi, hj, Option.map_some, Option.map_some, offset]
  · have distinct := InterruptView.nodup_names controller.banks
    rw [← view] at distinct
    obtain ⟨lt, -⟩ := List.getElem?_eq_some_iff.1 hj
    refine (List.getElem?_inj (by simpa using lt) distinct).1 ?_
    rw [List.getElem?_map, List.getElem?_map, hi, hj, Option.map_some, Option.map_some, name]

end DeviceEntry

-- ---------------------------------------------------------------------------
-- Addresses
-- ---------------------------------------------------------------------------

namespace Bus

/-- A word access at the address is one to a register `field` of a device `name`: the address
belongs to the device, at the offset of the register, and the register's hooks are run. -/
def Usable (bus : Bus) (name field : String) (address : UInt64) : Prop :=
  ∃ index e i r, e.name = name ∧ e.device.layout[i]? = some r ∧ r.name = field ∧
    bus.map.resolve address = some (index, r.offset) ∧
    e.device.layout.indexOf? r.offset = some i ∧ bus.Runs address index e i

structure AddressContract (board : Board) (bus : Bus) (name field : String) (address : UInt64)
    (d : DeviceEntry) (e : Entry) (i : Nat) (r : Register) : Prop where
  described : board.device? name = some d
  mapped : bus.find? name = some e
  built : d.BuildsTo Size.parse bus.controller e
  found : e.device.layout.find? field = some (i, r)
  sum : address = d.baseAddress + r.offset
  usable : bus.Usable name field address ↔
    r.offset < e.size ∧ e.device.layout.indexOf? r.offset = some i
  /-- A register can lose its offset to another one only in a view of too many lines. -/
  answers : (d.kind = "nvic" → bus.controller.lineCount ≤ 1024) →
    e.device.layout.indexOf? r.offset = some i
  default : d.size = none → r.offset < e.size
  missed : e.size ≤ r.offset → ∀ (index : Nat) size direction payload,
    bus.entries[index]? = some e →
      (bus.access address size direction payload).2.entries[index]? = some e

theorem add_sub_base (base offset : UInt64) : base + offset - base = offset := by
  rw [UInt64.add_comm, UInt64.add_sub_cancel]

theorem contains_add {e : Entry} (fits : e.Fits) {offset : UInt64} :
    e.Contains (e.base + offset) ↔ offset < e.size := by
  have := fits.2
  have := offset.toNat_lt
  have := e.base.toNat_lt
  simp only [Entry.Contains, UInt64.toNat_add, UInt64.lt_iff_toNat_lt, UInt64.size] at *
  omega

section
variable {parse : SizeParser} {bus : Bus} {d : DeviceEntry} {e : Entry} {i index : Nat}
  {r : Register} {field : String}

theorem Mapped.usable_of_lt (h : bus.Mapped) (builds : d.BuildsTo parse bus.controller e)
    (here : bus.entries[index]? = some e) (found : e.device.layout.find? field = some (i, r))
    (inside : r.offset < e.size) (decoded : e.device.layout.indexOf? r.offset = some i) :
    bus.Usable e.name field (e.base + r.offset) := by
  obtain ⟨there, called⟩ := Layout.getElem?_of_find? found
  have inE := (contains_add (h.fits e (Array.mem_of_getElem? here))).2 inside
  have offset := add_sub_base e.base r.offset
  have aligned := DeviceEntry.aligned_and_lt_of_build builds.device (List.mem_of_getElem? there)
  have resolved := h.resolve_of_contains here inE
  rw [offset] at resolved
  exact ⟨index, e, i, r, rfl, there, called, resolved, decoded,
    runs_of_resolve resolved here aligned.1 decoded⟩

/-- Names tell the devices apart, so that no other device of the name can take the access. -/
theorem Mapped.lt_of_usable (h : bus.Mapped) (names : (bus.entries.toList.map Entry.name).Nodup)
    (builds : d.BuildsTo parse bus.controller e) (here : bus.entries[index]? = some e)
    (found : e.device.layout.find? field = some (i, r))
    (usable : bus.Usable e.name field (e.base + r.offset)) :
    r.offset < e.size ∧ e.device.layout.indexOf? r.offset = some i := by
  obtain ⟨there, called⟩ := Layout.getElem?_of_find? found
  obtain ⟨index', e', j, r', named, there', called', resolved, decoded, runs⟩ := usable
  have same : e' = e :=
    List.inj_on_of_nodup_map names (Array.mem_toList_iff.2 (Array.mem_of_getElem? runs.entry))
      (Array.mem_toList_iff.2 (Array.mem_of_getElem? here)) named
  subst same
  obtain ⟨e'', there'', inE, offset⟩ := h.contains_of_resolve resolved
  obtain rfl : e'' = e' := Option.some.inj (there''.symm.trans runs.entry)
  rw [add_sub_base] at offset
  obtain rfl := DeviceEntry.eq_of_same_register builds.device there there'
    (called'.trans called.symm) offset
  exact ⟨(contains_add (h.fits e'' (Array.mem_of_getElem? here))).1 inE, offset ▸ decoded⟩

theorem Mapped.missed (h : bus.Mapped) (here : bus.entries[index]? = some e) {offset : UInt64}
    (outside : e.size ≤ offset) (size : AccessSize) (direction : Direction) (payload : UInt64) :
    (bus.access (e.base + offset) size direction payload).2.entries[index]? = some e := by
  rw [h.routingContract.others, here]
  intro e' here'
  obtain rfl : e = e' := Option.some.inj (here.symm.trans here')
  rw [contains_add (h.fits e (Array.mem_of_getElem? here))]
  exact UInt64.not_lt.2 outside

end

/-- The address of a register is usable exactly if the mapped size reaches past its offset and no
other register has the offset. -/
theorem ofBoard_addressContract {σ : Type} {board : Board} {memory : σ} {s : Simulator σ}
    {name field : String} {address : UInt64} (valid : board.validate = .ok ())
    (built : Simulator.ofBoard board memory = .ok s)
    (known : s.bus.registerAddress? name field = some address) :
    ∃ d e i r, AddressContract board s.bus name field address d e i r := by
  have carries := Simulator.carries_ofBoardBy built
  have names : (s.bus.entries.toList.map Entry.name).Nodup :=
    carries.names ▸ Board.nodup_ids valid
  simp only [registerAddress?, bind, Option.bind_eq_some_iff, pure, Option.some.injEq] at known
  obtain ⟨e, mapped, ⟨i, r⟩, found, rfl⟩ := known
  obtain ⟨d, described, builds⟩ := carries.find? mapped
  obtain ⟨there, -⟩ := Layout.getElem?_of_find? found
  have called : e.name = name := by simpa using Array.find?_some mapped
  obtain ⟨index, here⟩ := Array.getElem?_of_mem (Array.mem_of_find?_eq_some mapped)
  subst called
  refine ⟨d, e, i, r, described, mapped, builds, found, by rw [builds.base], ⟨?_, ?_⟩, ?_, ?_, ?_⟩
  · exact carries.mapped.lt_of_usable names builds here found
  · exact fun ⟨inside, decoded⟩ => carries.mapped.usable_of_lt builds here found inside decoded
  · exact fun few => DeviceEntry.answers_of_build builds.device few there
  · intro none
    have size := builds.size
    rw [DeviceEntry.sizeBytesBy, none] at size
    rw [← Except.ok.inj size]
    exact (DeviceEntry.aligned_and_lt_of_build builds.device (List.mem_of_getElem? there)).2
  · exact fun outside index size direction payload here =>
      carries.mapped.missed here outside size direction payload

/-- A message buffer of the second CAN controller. -/
theorem ofBoard_addressContract_growthChamber :
    Board.growthChamber.validate = .ok () ∧
      ∃ s, Simulator.ofBoard Board.growthChamber () = .ok s ∧
        s.bus.registerAddress? "can2" "MB3_CS" = some 0x400250B0 ∧
        ∃ d e i r,
          AddressContract Board.growthChamber s.bus "can2" "MB3_CS" 0x400250B0 d e i r := by
  have valid : Board.growthChamber.validate = .ok () := rfl
  obtain ⟨s, built, known⟩ : ∃ s, Simulator.ofBoard Board.growthChamber () = .ok s ∧
      s.bus.registerAddress? "can2" "MB3_CS" = some 0x400250B0 := ⟨_, rfl, rfl⟩
  exact ⟨valid, s, built, known, ofBoard_addressContract valid built known⟩

/-- A timer with sixteen bytes for its registers, of which `ARR` lies at offset `0x2C`. -/
def shortTimer : Board where
  name := "b"
  devices := [{ id := "tim", kind := "timer", baseAddress := 0x40000000, size := some "16B" }]

/-- The address of `ARR` belongs to no device: what is written there is lost. -/
theorem not_usable_of_short_timer :
    shortTimer.validate = .ok () ∧
      ∃ s, Simulator.ofBoard shortTimer () = .ok s ∧
        s.bus.registerAddress? "tim" "ARR" = some 0x4000002C ∧
        s.bus.map.resolve 0x4000002C = none ∧
        (∀ size direction payload,
          s.bus.access 0x4000002C size direction payload = (0, s.bus)) ∧
        ¬s.bus.Usable "tim" "ARR" 0x4000002C := by
  refine ⟨rfl, _, rfl, rfl, rfl, fun _ _ _ => rfl, ?_⟩
  rintro ⟨index, e, i, r, -, -, -, resolved, -⟩
  cases resolved

end Bus

end BoardSim
