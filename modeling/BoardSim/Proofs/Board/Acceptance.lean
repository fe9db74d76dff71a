import BoardSim.Proofs.Board.Build
import BoardSim.Proofs.Bus.Registration
import BoardSim.Proofs.Interrupt.LinePair

/-!
# Which boards can be built

A board is built exactly if each of its devices can be built after those before it (`Buildable`).
Otherwise the first device that cannot be built decides the error, and of what is wrong with it the
first that is looked at (`Fault`): its type and its extras, its size, its interrupt line, its range
and last the ranges of the devices before it. The check follows `Simulator.addEntryBy` step by step;
each lemma reads the success or the failure of one step as the rule it decides.
-/

namespace BoardSim

variable {σ : Type} {parse : SizeParser}

theorem bind_eq_ok {ε α β : Type} {x : Except ε α} {f : α → Except ε β} {b : β} :
    x >>= f = .ok b ↔ ∃ a, x = .ok a ∧ f a = .ok b := by
  cases x <;> simp [bind, Except.bind]

theorem bind_eq_error {ε α β : Type} {x : Except ε α} {f : α → Except ε β} {e : ε} :
    x >>= f = .error e ↔ x = .error e ∨ ∃ a, x = .ok a ∧ f a = .error e := by
  cases x <;> simp [bind, Except.bind]

namespace DeviceEntry

variable {d : DeviceEntry}

-- ---------------------------------------------------------------------------
-- Type and extras
-- ---------------------------------------------------------------------------

def kinds : List String := ["uart", "timer", "adc", "rtc", "spi", "systick", "can", "nvic"]

def clocked : List String := ["timer", "adc", "rtc", "systick"]

def value? (d : DeviceEntry) (key : String) : Option Extra :=
  (d.config.find? (·.1 == key)).map (·.2)

inductive Unsigned (d : DeviceEntry) (key : String) : Option UInt64 → Prop where
  | absent (missing : d.value? key = none) : Unsigned d key none
  | given {value : Extra} {n : UInt64} (found : d.value? key = some value)
      (unsigned : value.unsigned? = some n) : Unsigned d key (some n)

def NotUnsigned (d : DeviceEntry) (key : String) : Prop :=
  ∃ value, d.value? key = some value ∧ value.unsigned? = none

structure Configured (d : DeviceEntry) : Prop where
  kind : d.kind ∈ kinds
  clock : d.kind ∈ clocked → ∃ n, d.Unsigned "clock_hz" n
  bus : d.kind = "can" → ∃ n, d.Unsigned "bus" n ∧ ∀ number, n = some number → number.toNat ≤ 255

inductive Misconfigured (d : DeviceEntry) : BoardError → Prop where
  | kind (unknown : d.kind ∉ kinds) : Misconfigured d (.unsupportedType d.kind d.id)
  | clock (counts : d.kind ∈ clocked) (ill : d.NotUnsigned "clock_hz") :
      Misconfigured d (.notUnsigned "clock_hz" d.id)
  | bus (can : d.kind = "can") (ill : d.NotUnsigned "bus") :
      Misconfigured d (.notUnsigned "bus" d.id)
  | canBus (can : d.kind = "can") {number : UInt64} (given : d.Unsigned "bus" (some number))
      (large : 255 < number.toNat) : Misconfigured d (.canBus number d.id)

theorem Unsigned.not_notUnsigned {key : String} {n : Option UInt64} (h : d.Unsigned key n) :
    ¬d.NotUnsigned key := by
  rintro ⟨value, found, ill⟩
  cases h with
  | absent missing => exact nomatch missing.symm.trans found
  | given found' unsigned =>
    obtain rfl := Option.some.inj (found'.symm.trans found)
    exact nomatch unsigned.symm.trans ill

theorem Unsigned.unique {key : String} {n m : Option UInt64} (h : d.Unsigned key n)
    (h' : d.Unsigned key m) : n = m := by
  cases h with
  | absent missing =>
    cases h' with
    | absent => rfl
    | given found => exact nomatch missing.symm.trans found
  | given found unsigned =>
    cases h' with
    | absent missing => exact nomatch missing.symm.trans found
    | given found' unsigned' =>
      obtain rfl := Option.some.inj (found.symm.trans found')
      exact unsigned.symm.trans unsigned'

theorem Misconfigured.not_configured {e : BoardError} (h : d.Misconfigured e) :
    ¬d.Configured := by
  rintro ⟨kind, clock, bus⟩
  cases h with
  | kind unknown => exact unknown kind
  | clock counts ill =>
    obtain ⟨n, unsigned⟩ := clock counts
    exact unsigned.not_notUnsigned ill
  | bus can ill =>
    obtain ⟨n, unsigned, -⟩ := bus can
    exact unsigned.not_notUnsigned ill
  | canBus can given large =>
    obtain ⟨n, unsigned, small⟩ := bus can
    have := small _ (unsigned.unique given)
    omega

theorem unsigned_of_extra? {key : String} {n : Option UInt64} (h : d.extra? key = .ok n) :
    d.Unsigned key n := by
  unfold extra? at h
  split at h
  · next missing =>
    cases h
    exact .absent (by rw [value?, missing]; rfl)
  · next name value found =>
    split at h
    · next number unsigned =>
      cases h
      exact .given (by rw [value?, found]; rfl) unsigned
    · cases h

theorem notUnsigned_of_extra? {key : String} {e : BoardError} (h : d.extra? key = .error e) :
    d.NotUnsigned key ∧ e = .notUnsigned key d.id := by
  unfold extra? at h
  split at h
  · cases h
  · next name value found =>
    split at h
    · cases h
    · next ill =>
      cases h
      exact ⟨⟨value, by rw [value?, found]; rfl, ill⟩, rfl⟩

theorem eq_of_clock {default hz : UInt64} (h : d.clock default = .ok hz) :
    ∃ n, d.Unsigned "clock_hz" n ∧ hz = n.getD default := by
  simp only [clock, bind_eq_ok] at h
  obtain ⟨n, read, same⟩ := h
  cases same
  exact ⟨n, unsigned_of_extra? read, rfl⟩

theorem notUnsigned_of_clock {default : UInt64} {e : BoardError}
    (h : d.clock default = .error e) :
    d.NotUnsigned "clock_hz" ∧ e = .notUnsigned "clock_hz" d.id := by
  simp only [clock, bind_eq_error] at h
  rcases h with ill | ⟨n, -, h⟩
  · exact notUnsigned_of_extra? ill
  · cases h

theorem canBus_eq (d : DeviceEntry) : d.canBus = (do
    let n ← d.extra? "bus"
    if n.getD 0 < 256 then pure (n.getD 0).toUInt8 else throw (.canBus (n.getD 0) d.id)) := rfl

theorem eq_of_canBus {number : UInt8} (h : d.canBus = .ok number) :
    ∃ n, d.Unsigned "bus" n ∧ (n.getD 0).toNat ≤ 255 ∧ number = (n.getD 0).toUInt8 := by
  simp only [canBus_eq, bind_eq_ok] at h
  obtain ⟨n, read, fits⟩ := h
  split at fits
  · next small =>
    cases fits
    exact ⟨n, unsigned_of_extra? read, Nat.le_of_lt_succ (UInt64.lt_iff_toNat_lt.1 small), rfl⟩
  · cases fits

theorem misconfigured_of_canBus {e : BoardError} (can : d.kind = "can")
    (h : d.canBus = .error e) : d.Misconfigured e := by
  simp only [canBus_eq, bind_eq_error] at h
  rcases h with refused | ⟨n, read, large⟩
  · obtain ⟨ill, rfl⟩ := notUnsigned_of_extra? refused
    exact .bus can ill
  · split at large
    · cases large
    · next large' =>
      cases large
      have given := unsigned_of_extra? read
      cases n with
      | none => exact absurd (by decide : (0 : UInt64) < 256) large'
      | some number => exact .canBus can given (Nat.lt_of_not_le fun small => large'
          (UInt64.lt_iff_toNat_lt.2 (Nat.lt_succ_of_le small)))

inductive Models (controller : InterruptController) (d : DeviceEntry) : Device → Prop where
  | uart (kind : d.kind = "uart") : Models controller d (.uart {})
  | timer (kind : d.kind = "timer") {n : Option UInt64} (clock : d.Unsigned "clock_hz" n) :
      Models controller d (.timer (.withClock (n.getD 1000000)))
  | adc (kind : d.kind = "adc") {n : Option UInt64} (clock : d.Unsigned "clock_hz" n) :
      Models controller d (.adc (.withClock (n.getD 1000000)))
  | rtc (kind : d.kind = "rtc") {n : Option UInt64} (clock : d.Unsigned "clock_hz" n) :
      Models controller d (.rtc (.withClock (n.getD 32768)))
  | spi (kind : d.kind = "spi") : Models controller d (.spi {})
  | sysTick (kind : d.kind = "systick") {n : Option UInt64} (clock : d.Unsigned "clock_hz" n) :
      Models controller d (.sysTick (.withClock (n.getD 48000000)))
  | can (kind : d.kind = "can") {n : Option UInt64} (bus : d.Unsigned "bus" n)
      (fits : (n.getD 0).toNat ≤ 255) : Models controller d (.can { bus := (n.getD 0).toUInt8 })
  | nvic (kind : d.kind = "nvic") : Models controller d (.view { banks := controller.banks })

section
variable {controller : InterruptController} {device : Device}

theorem Models.configured (h : d.Models controller device) : d.Configured := by
  have plain (kind : d.kind ∈ ["uart", "spi", "nvic"]) : d.Configured := by
    have known : ∀ k ∈ ["uart", "spi", "nvic"], k ∈ kinds ∧ k ∉ clocked ∧ k ≠ "can" := by decide
    obtain ⟨known, plain, notCan⟩ := known _ kind
    exact ⟨known, fun counts => absurd counts plain, fun can => absurd can notCan⟩
  have counts (kind : d.kind ∈ clocked) {n : Option UInt64} (clock : d.Unsigned "clock_hz" n) :
      d.Configured := by
    have known : ∀ k ∈ clocked, k ∈ kinds ∧ k ≠ "can" := by decide
    obtain ⟨known, notCan⟩ := known _ kind
    exact ⟨known, fun _ => ⟨n, clock⟩, fun can => absurd can notCan⟩
  cases h with
  | uart kind | spi kind | nvic kind => exact plain (by simp [kind])
  | timer kind clock | adc kind clock | rtc kind clock | sysTick kind clock =>
    exact counts (by simp [kind, clocked]) clock
  | @can kind n bus fits =>
    have known : "can" ∈ kinds ∧ "can" ∉ clocked := by decide
    refine ⟨kind ▸ known.1, fun counts => absurd (kind ▸ counts) known.2, fun _ => ⟨n, bus, ?_⟩⟩
    rintro number rfl
    exact fits

theorem models_of_build (h : d.build controller = .ok device) : d.Models controller device := by
  have counts {default : UInt64} {f : UInt64 → Device}
      (h : (do return f (← d.clock default)) = (.ok device : Except BoardError Device)) :
      ∃ n, d.Unsigned "clock_hz" n ∧ f (n.getD default) = device := by
    obtain ⟨hz, read, made⟩ := bind_eq_ok.1 h
    obtain ⟨n, unsigned, rfl⟩ := eq_of_clock read
    exact ⟨n, unsigned, Except.ok.inj made⟩
  unfold build at h
  split at h
  case h_1 kind => cases h; exact .uart kind
  case h_2 kind => obtain ⟨n, clock, rfl⟩ := counts h; exact .timer kind clock
  case h_3 kind => obtain ⟨n, clock, rfl⟩ := counts h; exact .adc kind clock
  case h_4 kind => obtain ⟨n, clock, rfl⟩ := counts h; exact .rtc kind clock
  case h_5 kind => cases h; exact .spi kind
  case h_6 kind => obtain ⟨n, clock, rfl⟩ := counts h; exact .sysTick kind clock
  case h_7 kind =>
    obtain ⟨number, read, made⟩ := bind_eq_ok.1 h
    obtain ⟨n, bus, fits, rfl⟩ := eq_of_canBus read
    cases made
    exact .can kind bus fits
  case h_8 kind => cases h; exact .nvic kind
  case h_9 => cases h

theorem misconfigured_of_build {e : BoardError} (h : d.build controller = .error e) :
    d.Misconfigured e := by
  have counts (kind : d.kind ∈ clocked) {default : UInt64} {f : UInt64 → Device}
      (h : (do return f (← d.clock default)) = (.error e : Except BoardError Device)) :
      d.Misconfigured e := by
    rcases bind_eq_error.1 h with refused | ⟨hz, -, made⟩
    · obtain ⟨ill, rfl⟩ := notUnsigned_of_clock refused
      exact .clock kind ill
    · cases made
  unfold build at h
  split at h
  case h_1 | h_5 | h_8 => cases h
  case h_2 kind | h_3 kind | h_4 kind | h_6 kind => exact counts (by simp [kind, clocked]) h
  case h_7 kind =>
    rcases bind_eq_error.1 h with refused | ⟨number, -, made⟩
    · exact misconfigured_of_canBus kind refused
    · cases made
  case h_9 uart timer adc rtc spi sysTick can nvic =>
    cases h
    refine .kind fun known => ?_
    simp only [kinds, List.mem_cons, List.not_mem_nil, or_false] at known
    rcases known with kind | kind | kind | kind | kind | kind | kind | kind
    · exact uart kind
    · exact timer kind
    · exact adc kind
    · exact rtc kind
    · exact spi kind
    · exact sysTick kind
    · exact can kind
    · exact nvic kind

end

-- ---------------------------------------------------------------------------
-- Size, line and range
-- ---------------------------------------------------------------------------

/-- The device takes up `n` bytes: 4096 if it does not say. -/
inductive Occupies (parse : SizeParser) (d : DeviceEntry) : UInt64 → Prop where
  | default (silent : d.size = none) : Occupies parse d 4096
  | given {text : String} {n : UInt64} (size : d.size = some text)
      (read : parse text = .ok n) : Occupies parse d n

/-- The device uses the interrupt line. A SysTick that names none has the line of its exception. -/
inductive Uses (d : DeviceEntry) : UInt32 → Prop where
  | own {line : UInt32} (named : d.irq = some line) : Uses d line
  | exception (silent : d.irq = none) (kind : d.kind = "systick") : Uses d 15

def Covers (parse : SizeParser) (d : DeviceEntry) (address : UInt64) : Prop :=
  ∃ n, d.Occupies parse n ∧ d.baseAddress.toNat ≤ address.toNat ∧
    address.toNat < d.baseAddress.toNat + n.toNat

def Meets (parse : SizeParser) (d other : DeviceEntry) : Prop :=
  ∃ address, other.Covers parse address ∧ d.Covers parse address

def Ranged (d : DeviceEntry) (n : UInt64) : Prop :=
  0 < n.toNat ∧ d.baseAddress.toNat + n.toNat < UInt64.size

structure Buildable (parse : SizeParser) (lines : Nat) (earlier : List DeviceEntry)
    (d : DeviceEntry) : Prop where
  configured : d.Configured
  range : ∃ n, d.Occupies parse n ∧ d.Ranged n
  line : ∀ line, d.Uses line → line.toNat < lines
  apart : ∀ other ∈ earlier, ¬d.Meets parse other

/-- The first thing that is wrong with a device after `earlier`. -/
inductive Fault (parse : SizeParser) (lines : Nat) (earlier : List DeviceEntry)
    (d : DeviceEntry) : BoardError → Prop where
  | config {e : BoardError} (ill : d.Misconfigured e) : Fault parse lines earlier d e
  | size (configured : d.Configured) {text : String} {e : SizeError} (given : d.size = some text)
      (unread : parse text = .error e) : Fault parse lines earlier d (.size d.id e)
  | line (configured : d.Configured) {n : UInt64} (size : d.Occupies parse n) {line : UInt32}
      (uses : d.Uses line) (out : lines ≤ line.toNat) :
      Fault parse lines earlier d (.unmapped d.id (.invalidIrqLine line (UInt32.ofNat lines)))
  | range (configured : d.Configured) {n : UInt64} (size : d.Occupies parse n)
      (within : ∀ line, d.Uses line → line.toNat < lines) (unfit : ¬d.Ranged n) :
      Fault parse lines earlier d (.unmapped d.id (.invalidRange d.id d.baseAddress n))
  /-- Of several devices in the way the one at the lowest address is named. -/
  | overlap (configured : d.Configured) {n : UInt64} (size : d.Occupies parse n)
      (within : ∀ line, d.Uses line → line.toNat < lines) (ranged : d.Ranged n)
      {other : DeviceEntry} (mem : other ∈ earlier) (meets : d.Meets parse other)
      (lowest : ∀ device ∈ earlier, d.Meets parse device →
        other.baseAddress.toNat ≤ device.baseAddress.toNat) :
      Fault parse lines earlier d
        (.unmapped d.id (.addressOverlap d.id d.baseAddress n other.id))

theorem occupies_iff {n : UInt64} : d.Occupies parse n ↔ d.sizeBytesBy parse = .ok n := by
  constructor
  · rintro (silent | ⟨size, read⟩)
    · rw [sizeBytesBy, silent]
      rfl
    · rw [sizeBytesBy, size]
      simp only [read]
      rfl
  · intro h
    unfold sizeBytesBy at h
    split at h
    · next silent =>
      cases h
      exact .default silent
    · next text size =>
      cases read : parse text with
      | error e => rw [read] at h; cases h
      | ok m =>
        rw [read] at h
        cases h
        exact .given size read

theorem unread_of_sizeBytesBy {e : BoardError} (h : d.sizeBytesBy parse = .error e) :
    ∃ text cause, d.size = some text ∧ parse text = .error cause ∧ e = .size d.id cause := by
  unfold sizeBytesBy at h
  split at h
  · cases h
  · next text given =>
    cases read : parse text with
    | ok n => rw [read] at h; cases h
    | error cause =>
      rw [read] at h
      cases h
      exact ⟨text, cause, given, read, rfl⟩

theorem Occupies.unique {n m : UInt64} (h : d.Occupies parse n) (h' : d.Occupies parse m) :
    n = m := by
  rw [occupies_iff] at h h'
  exact Except.ok.inj (h.symm.trans h')

theorem uses_iff {line : UInt32} : d.Uses line ↔ d.line? = some line := by
  unfold line?
  constructor
  · rintro (named | ⟨silent, kind⟩)
    · rw [named]
      rfl
    · rw [silent, if_pos kind]
      rfl
  · intro h
    cases irq : d.irq with
    | some own =>
      rw [irq] at h
      cases h
      exact .own irq
    | none =>
      rw [irq] at h
      split at h
      · next kind =>
        cases h
        exact .exception irq kind
      · cases h

theorem Fault.not_buildable {lines : Nat} {earlier : List DeviceEntry} {e : BoardError}
    (h : d.Fault parse lines earlier e) : ¬d.Buildable parse lines earlier := by
  rintro ⟨configured, ⟨n, size, ranged⟩, line, apart⟩
  cases h with
  | config ill => exact ill.not_configured configured
  | size _ given unread =>
    cases size with
    | default silent => exact nomatch silent.symm.trans given
    | given size read =>
      obtain rfl := Option.some.inj (size.symm.trans given)
      exact nomatch read.symm.trans unread
  | line _ _ uses out => exact Nat.not_lt.2 out (line _ uses)
  | range _ size' _ unfit => exact unfit (size.unique size' ▸ ranged)
  | overlap _ _ _ _ mem meets _ => exact apart _ mem meets

-- ---------------------------------------------------------------------------
-- The entry of a device
-- ---------------------------------------------------------------------------

structure Holds (parse : SizeParser) (controller : InterruptController) (d : DeviceEntry)
    (e : Entry) : Prop where
  name : e.name = d.id
  base : e.base = d.baseAddress
  size : d.Occupies parse e.size
  line : ∀ line, e.irq = some line ↔ d.Uses line
  device : d.Models controller e.device

namespace BuildsTo

variable {controller : InterruptController} {e : Entry}

theorem holds (h : d.BuildsTo parse controller e) : d.Holds parse controller e where
  name := h.name
  base := h.base
  size := occupies_iff.2 h.size
  line line := by rw [h.irq, uses_iff]
  device := models_of_build h.device

theorem covers_iff (h : d.BuildsTo parse controller e) (address : UInt64) :
    d.Covers parse address ↔ e.Contains address := by
  have size : d.Occupies parse e.size := occupies_iff.2 h.size
  rw [Entry.Contains, h.base]
  constructor
  · rintro ⟨n, sized, inside⟩
    rwa [sized.unique size] at inside
  · intro inside
    exact ⟨e.size, size, inside⟩

theorem meets_iff (h : d.BuildsTo parse controller e) {other : DeviceEntry} {e' : Entry}
    (h' : other.BuildsTo parse controller e') : d.Meets parse other ↔ ¬e'.Apart e := by
  simp only [Meets, Entry.Apart, h.covers_iff, h'.covers_iff, not_forall, not_not]

theorem ranged_iff (h : d.BuildsTo parse controller e) : d.Ranged e.size ↔ e.Fits := by
  have positive : 0 < e.size.toNat ↔ e.size ≠ 0 := by
    rw [Nat.pos_iff_ne_zero, ne_eq, ne_eq, ← UInt64.toNat_inj]
    rfl
  rw [Ranged, Entry.Fits, h.base, positive]

theorem lineWithin_iff (h : d.BuildsTo parse controller e) : e.LineWithin controller ↔
    ∀ line, d.Uses line → line.toNat < controller.lineCount.toNat := by
  simp only [Entry.LineWithin, h.irq, uses_iff, UInt32.lt_iff_toNat_lt]

end BuildsTo

end DeviceEntry

/-- The entry that a full range is reported to overlap is the lowest that it meets. -/
theorem Bus.Mapped.lowest_of_find? {bus : Bus} {entry : Entry} (h : bus.Mapped)
    (fits : entry.Fits) {m : Mapping}
    (found : bus.map.find? (·.overlaps entry.base (entry.base + entry.size)) = some m) :
    ∃ other, bus.entries[m.device]? = some other ∧ ¬other.Apart entry ∧
      ∀ e ∈ bus.entries, ¬e.Apart entry → other.base.toNat ≤ e.base.toNat := by
  have overlaps {i : Nat} {e : Entry} (here : bus.entries[i]? = some e) :
      (e.mapping i).overlaps entry.base (entry.base + entry.size) = true ↔ ¬e.Apart entry :=
    (h.fits e (Array.mem_of_getElem? here)).overlaps_mapping fits i
  obtain ⟨hit, before, after, split, free⟩ := List.find?_eq_some_iff_append.1 found
  obtain ⟨other, here, same⟩ :=
    mem_ranges.1 (h.perm.mem_iff.1 (List.mem_of_find?_eq_some found))
  refine ⟨other, here, (overlaps here).1 (same.symm ▸ hit), fun e mem meets => ?_⟩
  obtain ⟨i, there⟩ := Array.getElem?_of_mem mem
  have meets := (overlaps there).2 meets
  have base : other.base = m.base := congrArg Mapping.base same
  have mapped := h.mapping_mem there
  rw [split, List.mem_append, List.mem_cons] at mapped
  rcases mapped with earlier | rfl | later
  · exact absurd meets (by simpa using free _ earlier)
  · exact Nat.le_of_eq (congrArg UInt64.toNat base)
  · have sorted := h.separated.sorted
    rw [split, List.pairwise_append, List.pairwise_cons] at sorted
    rw [base]
    exact Nat.le_of_lt (UInt64.lt_iff_toNat_lt.1 (sorted.2.1.1 _ later))

namespace Simulator

-- ---------------------------------------------------------------------------
-- One device
-- ---------------------------------------------------------------------------

/-- The interrupt lines of a controller that is asked for `irqLines`: whole banks of 32, one at
least and no more than 4096 lines. -/
def lineCapacity (irqLines : UInt32) : Nat := 32 * max 1 (min irqLines.toNat 4096 ⌈/⌉ 32)

theorem addEntryBy_eq_error {s : Simulator σ} {d : DeviceEntry} {e : BoardError}
    (h : s.addEntryBy parse d = .error e) :
    d.build s.bus.controller = .error e ∨
      (∃ device, d.build s.bus.controller = .ok device) ∧ d.sizeBytesBy parse = .error e ∨
        ∃ entry cause, d.BuildsTo parse s.bus.controller entry ∧
          s.bus.register entry = .error cause ∧ e = .unmapped d.id cause := by
  simp only [addEntryBy, addDevice, bind_eq_error] at h
  rcases h with refused | ⟨device, built, refused | ⟨size, sized, h⟩⟩
  · exact .inl refused
  · exact .inr (.inl ⟨⟨device, built⟩, refused⟩)
  · split at h
    · cases h
    · next cause refused =>
      cases h
      let entry : Entry := { name := d.id, base := d.baseAddress, size, irq := d.line?, device }
      refine .inr (.inr ⟨entry, cause, ⟨rfl, rfl, sized, rfl, built⟩, ?_, rfl⟩)
      rcases bind_eq_error.1 refused with refused | ⟨_, _, added⟩
      · exact refused
      · cases added

section
variable {devices : List DeviceEntry} {config : SimConfig} {memory : σ} {s : Simulator σ}
  {d : DeviceEntry}

theorem Carries.toNat_lineCount (h : Carries parse devices config memory s) :
    s.bus.controller.lineCount.toNat = lineCapacity config.irqLines := by
  rw [h.controller]
  exact InterruptController.toNat_lineCount_withLines _

/-- Every device has its entry, and every entry its device. -/
theorem Carries.exists_entry (h : Carries parse devices config memory s) {other : DeviceEntry}
    (mem : other ∈ devices) :
    ∃ e ∈ s.bus.entries, other.BuildsTo parse s.bus.controller e := by
  obtain ⟨i, hi, rfl⟩ := List.mem_iff_getElem.1 mem
  obtain ⟨same, each⟩ := List.forall₂_iff_get.1 h.entries
  have inside : i < s.bus.entries.toList.length := same ▸ hi
  exact ⟨_, Array.mem_toList_iff.1 (List.getElem_mem inside), each i hi inside⟩

theorem Carries.exists_device (h : Carries parse devices config memory s) {e : Entry}
    (mem : e ∈ s.bus.entries) :
    ∃ other ∈ devices, other.BuildsTo parse s.bus.controller e := by
  obtain ⟨i, hi, rfl⟩ := List.mem_iff_getElem.1 (Array.mem_toList_iff.2 mem)
  obtain ⟨same, each⟩ := List.forall₂_iff_get.1 h.entries
  have inside : i < devices.length := same ▸ hi
  exact ⟨_, List.getElem_mem inside, each i inside hi⟩

theorem Carries.buildable (h : Carries parse devices config memory s) {s' : Simulator σ}
    (added : s.addEntryBy parse d = .ok s') :
    d.Buildable parse (lineCapacity config.irqLines) devices := by
  obtain ⟨e, index, builds, registered, -⟩ := addEntryBy_eq_ok added
  obtain ⟨within, fits, apart⟩ := h.mapped.admits_of_registered registered
  refine ⟨(DeviceEntry.models_of_build builds.device).configured,
    ⟨e.size, DeviceEntry.occupies_iff.2 builds.size, builds.ranged_iff.2 fits⟩, ?_, ?_⟩
  · rw [← h.toNat_lineCount]
    exact builds.lineWithin_iff.1 within
  · intro other mem meets
    obtain ⟨e', mem', builds'⟩ := h.exists_entry mem
    exact (builds.meets_iff builds').1 meets (apart e' mem')

/-- A device that the bus refuses has a fault of line, range or overlap. -/
theorem Carries.fault_of_register (h : Carries parse devices config memory s) {e : Entry}
    (builds : d.BuildsTo parse s.bus.controller e) {cause : SimError}
    (refused : s.bus.register e = .error cause) :
    d.Fault parse (lineCapacity config.irqLines) devices (.unmapped d.id cause) := by
  have configured := (DeviceEntry.models_of_build builds.device).configured
  have size := DeviceEntry.occupies_iff.2 builds.size
  have capacity := h.toNat_lineCount
  by_cases within : e.LineWithin s.bus.controller
  case neg =>
    obtain ⟨line, named, out⟩ : ∃ line, e.irq = some line ∧ s.bus.controller.lineCount ≤ line := by
      simpa [Entry.LineWithin] using within
    rw [Bus.register_of_not_lineWithin named out] at refused
    cases refused
    have uses : d.Uses line := DeviceEntry.uses_iff.2 (builds.irq.symm.trans named)
    have shown : s.bus.controller.lineCount = UInt32.ofNat (lineCapacity config.irqLines) := by
      rw [← capacity, UInt32.ofNat_toNat]
    rw [shown]
    exact .line configured size uses (capacity ▸ UInt32.le_iff_toNat_le.1 out)
  case pos =>
    have lines := builds.lineWithin_iff.1 within
    rw [capacity] at lines
    rw [Bus.register_of_lineWithin within] at refused
    by_cases fits : e.Fits
    case neg =>
      rw [Bus.insert?_of_not_fits fits] at refused
      cases refused
      rw [builds.name, builds.base]
      exact .range configured size lines (mt builds.ranged_iff.1 fits)
    case pos =>
      rw [Bus.insert?_of_fits fits] at refused
      cases found : s.bus.map.find? (·.overlaps e.base (e.base + e.size)) with
      | none => rw [found] at refused; cases refused
      | some m =>
        rw [found] at refused
        obtain ⟨e', here, meets, lowest⟩ := h.mapped.lowest_of_find? fits found
        obtain ⟨other, mem, builds'⟩ := h.exists_device (Array.mem_of_getElem? here)
        simp only [here, Option.map_some, Option.getD_some] at refused
        cases refused
        rw [builds.name, builds.base, builds'.name]
        refine .overlap configured size lines (builds.ranged_iff.2 fits) mem
          ((builds.meets_iff builds').2 meets) fun device mem inTheWay => ?_
        obtain ⟨e'', mem', builds''⟩ := h.exists_entry mem
        have := lowest e'' mem' ((builds.meets_iff builds'').1 inTheWay)
        rwa [builds'.base, builds''.base] at this

theorem Carries.fault (h : Carries parse devices config memory s) {e : BoardError}
    (refused : s.addEntryBy parse d = .error e) :
    d.Fault parse (lineCapacity config.irqLines) devices e := by
  rcases addEntryBy_eq_error refused with ill | ⟨⟨device, built⟩, unread⟩ |
    ⟨entry, cause, builds, denied, rfl⟩
  · exact .config (DeviceEntry.misconfigured_of_build ill)
  · obtain ⟨text, cause, given, illegible, rfl⟩ := DeviceEntry.unread_of_sizeBytesBy unread
    exact .size (DeviceEntry.models_of_build built).configured given illegible
  · exact h.fault_of_register builds denied

end

-- ---------------------------------------------------------------------------
-- The whole board
-- ---------------------------------------------------------------------------

def AllBuildable (parse : SizeParser) (lines : Nat) (done devices : List DeviceEntry) : Prop :=
  ∀ earlier d later, devices = earlier ++ d :: later → d.Buildable parse lines (done ++ earlier)

theorem allBuildable_nil (lines : Nat) (done : List DeviceEntry) :
    AllBuildable parse lines done [] := by
  intro earlier d later split
  simp at split

theorem allBuildable_cons {lines : Nat} {done devices : List DeviceEntry} {d : DeviceEntry} :
    AllBuildable parse lines done (d :: devices) ↔
      d.Buildable parse lines done ∧ AllBuildable parse lines (done ++ [d]) devices := by
  constructor
  · intro all
    refine ⟨by simpa using all [] d devices rfl, fun earlier d' later split => ?_⟩
    simpa using all (d :: earlier) d' later (congrArg (d :: ·) split)
  · rintro ⟨first, rest⟩ earlier d' later split
    cases earlier with
    | nil =>
      cases split
      simpa using first
    | cons _ earlier =>
      cases split
      simpa using rest earlier d' later rfl

section
variable {config : SimConfig} {memory : σ}

theorem Carries.allBuildable {done rest : List DeviceEntry} {s s' : Simulator σ}
    (h : Carries parse done config memory s)
    (run : rest.foldlM (Simulator.addEntryBy parse) s = .ok s') :
    AllBuildable parse (lineCapacity config.irqLines) done rest := by
  induction rest generalizing done s with
  | nil => exact allBuildable_nil _ _
  | cons d rest ih =>
    simp only [List.foldlM_cons, bind_eq_ok] at run
    obtain ⟨s₁, added, run⟩ := run
    exact allBuildable_cons.2 ⟨h.buildable added, ih (h.addEntryBy added) run⟩

/-- The run stops at the first device with a fault. -/
theorem Carries.first_fault {done rest : List DeviceEntry} {s : Simulator σ} {e : BoardError}
    (h : Carries parse done config memory s)
    (run : rest.foldlM (Simulator.addEntryBy parse) s = .error e) :
    ∃ earlier d later, rest = earlier ++ d :: later ∧
      AllBuildable parse (lineCapacity config.irqLines) done earlier ∧
        d.Fault parse (lineCapacity config.irqLines) (done ++ earlier) e := by
  induction rest generalizing done s with
  | nil => cases run
  | cons d rest ih =>
    simp only [List.foldlM_cons, bind_eq_error] at run
    rcases run with refused | ⟨s₁, added, run⟩
    · exact ⟨[], d, rest, rfl, allBuildable_nil _ _, by simpa using h.fault refused⟩
    · obtain ⟨earlier, d', later, rfl, all, fault⟩ := ih (h.addEntryBy added) run
      exact ⟨d :: earlier, d', later, rfl, allBuildable_cons.2 ⟨h.buildable added, all⟩,
        by simpa using fault⟩

end

structure BuildContract (parse : SizeParser) (board : Board) (memory : σ) : Prop where
  accepted : (∃ s, ofBoardBy parse board memory = .ok s) ↔
    AllBuildable parse (lineCapacity board.simulation.irqLines) [] board.devices
  refused : ∀ e, ofBoardBy parse board memory = .error e → ∃ earlier d later,
    board.devices = earlier ++ d :: later ∧
      AllBuildable parse (lineCapacity board.simulation.irqLines) [] earlier ∧
        d.Fault parse (lineCapacity board.simulation.irqLines) earlier e
  built : ∀ s, ofBoardBy parse board memory = .ok s →
    s = { new board.simulation.toConfig memory with bus := s.bus } ∧
      s.bus.controller = .withLines board.simulation.irqLines ∧
        board.devices.Forall₂ (DeviceEntry.Holds parse s.bus.controller) s.bus.entries.toList

theorem buildContract (parse : SizeParser) (board : Board) (memory : σ) :
    BuildContract parse board memory where
  accepted := by
    constructor
    · rintro ⟨s, built⟩
      exact (carries_new _ memory).allBuildable built
    · intro all
      cases run : ofBoardBy parse board memory with
      | ok s => exact ⟨s, rfl⟩
      | error e =>
        obtain ⟨earlier, d, later, split, -, fault⟩ := (carries_new _ memory).first_fault run
        exact absurd (all earlier d later split) fault.not_buildable
  refused e run := (carries_new _ memory).first_fault run
  built s run := by
    obtain ⟨rest, controller, -, -, entries⟩ := carries_ofBoardBy run
    exact ⟨rest, controller, entries.imp fun _ _ builds => builds.holds⟩

end Simulator

end BoardSim
