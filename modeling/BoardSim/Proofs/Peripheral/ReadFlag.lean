import BoardSim.Device
import BoardSim.Proofs.Can.Buffers
import BoardSim.Proofs.Interrupt.View
import BoardSim.Proofs.Peripheral.Bits
import BoardSim.Proofs.Peripheral.ClearOnRead

/-!
# What a read leaves behind

Reading one register of a peripheral clears a flag: `RXNE` goes with the data register of a UART or
an SPI master, `EOC` with that of a converter and `COUNTFLAG` with the control register that has it
(`Device.readFlag?`). A read of any width and alignment changes nothing else, in the peripheral or
in the interrupt controller (`QuietContract.leaves`), so the same read gives the same answer again
unless it reaches both the register that clears the flag and the one that has it
(`QuietContract.again`).
-/

namespace BoardSim

structure ReadFlag where
  /-- The register that is read. -/
  cause : Nat
  /-- The register that has the flag. -/
  status : Nat
  mask : UInt32
deriving DecidableEq

namespace Peripheral

variable {δ : Type} [Peripheral δ]

def clearFlag (flag : ReadFlag) (d : δ) : δ :=
  put d flag.status (held d flag.status &&& ~~~flag.mask)

/-- Register reads clear `flag?`, which only its own register shows, and change nothing else. -/
structure ReadsClear (δ : Type) [Peripheral δ] (flag? : Option ReadFlag) : Prop
    extends SteadyReads δ where
  read_ne : ∀ (d : δ) i, (∀ flag ∈ flag?, flag.cause ≠ i) → perform d (.read i) = d
  read_cause : ∀ flag ∈ flag?, ∀ d : δ, perform d (.read flag.cause) = clearFlag flag d
  clear_clear : ∀ flag ∈ flag?, ∀ d : δ, clearFlag flag (clearFlag flag d) = clearFlag flag d
  fetch_clear : ∀ flag ∈ flag?, ∀ (d : δ) i, i ≠ flag.status →
    (Peripheral.fetch (clearFlag flag d) i).1 = (Peripheral.fetch d i).1

-- ---------------------------------------------------------------------------
-- From the hooks of a model
-- ---------------------------------------------------------------------------

section
variable (steady : SteadyReads δ) (keep : ∀ d : δ, ∀ r ∈ layout d, r.onRead = .keep)
include steady keep

theorem perform_read_of_keep (d : δ) (i : Nat) : perform d (.read i) = (fetch d i).2 :=
  settle_of_keep (by rw [steady.fetch]; exact keep d) i

theorem ReadsClear.of_still (still : ∀ (d : δ) i, (fetch d i).2 = d) : ReadsClear δ none where
  toSteadyReads := steady
  read_ne d i _ := (perform_read_of_keep steady keep d i).trans (still d i)
  read_cause := by simp
  clear_clear := by simp
  fetch_clear := by simp

theorem ReadsClear.of_fetch {flag : ReadFlag}
    (fetched : ∀ (d : δ) i, (fetch d i).2 = if i = flag.cause then clearFlag flag d else d)
    (clear_clear : ∀ d : δ, clearFlag flag (clearFlag flag d) = clearFlag flag d)
    (fetch_clear : ∀ (d : δ) i, i ≠ flag.status →
      (fetch (clearFlag flag d) i).1 = (fetch d i).1) : ReadsClear δ (some flag) where
  toSteadyReads := steady
  read_ne d i other := by
    rw [perform_read_of_keep steady keep, fetched, if_neg (Ne.symm (other flag rfl))]
  read_cause := by
    rintro _ ⟨rfl⟩ d
    rw [perform_read_of_keep steady keep, fetched, if_pos rfl]
  clear_clear := by
    rintro _ ⟨rfl⟩
    exact clear_clear
  fetch_clear := by
    rintro _ ⟨rfl⟩
    exact fetch_clear

end

theorem eq_of_payloadByte {v w : UInt64} (same : ∀ k < 8, payloadByte v k = payloadByte w k) :
    v = w := by
  have narrow (x : UInt64) : ∀ k < 8, 8 ≤ k → payloadByte x k = 0 := by omega
  apply UInt64.toNat_inj.1
  rw [toNat_eq_sum_payloadByte v le_rfl (narrow v), toNat_eq_sum_payloadByte w le_rfl (narrow w)]
  exact Finset.sum_congr rfl fun k hk => by rw [same k (Finset.mem_range.1 hk)]

-- ---------------------------------------------------------------------------
-- Any access
-- ---------------------------------------------------------------------------

namespace ReadsClear

variable {flag? : Option ReadFlag} (reads : ReadsClear δ flag?) {flag : ReadFlag} (d : δ)
  {offset : UInt64} {size : AccessSize}
include reads

theorem snd_read_ne {word : UInt64}
    (apart : ∀ flag ∈ flag?, (layout d).indexOf? word ≠ some flag.cause) : (read d word).2 = d := by
  cases found : (layout d).indexOf? word with
  | none => simp only [read, found]
  | some i =>
    have same : (read d word).2 = perform d (.read i) := by
      simp only [read, found]
      rfl
    rw [same]
    exact reads.read_ne d i fun flag mem cause => apart flag mem (cause ▸ found)

theorem snd_read_cause (mem : flag ∈ flag?) {word : UInt64}
    (found : (layout d).indexOf? word = some flag.cause) : (read d word).2 = clearFlag flag d := by
  rw [← reads.read_cause flag mem]
  simp only [read, found]
  rfl

/-- The flag itself is not among what other registers show. -/
theorem fst_read_clearFlag (mem : flag ∈ flag?) {word : UInt64}
    (other : (layout d).indexOf? word ≠ some flag.status) :
    (read (clearFlag flag d) word).1 = (read d word).1 := by
  have same : layout (clearFlag flag d) = layout d := reads.put _ _ _
  cases found : (layout d).indexOf? word with
  | none => simp only [read, same, found]
  | some i =>
    simp only [read, same, found]
    exact reads.fetch_clear flag mem d i fun status => other (status ▸ found)

theorem foldl_ne (l : List Piece) (apart : ∀ flag ∈ flag?, ∀ p ∈ l,
    (layout d).indexOf? (wordOffset (offset + UInt64.ofNat p.first)) ≠ some flag.cause) :
    l.foldl (loadPiece offset) d = d := by
  induction l with
  | nil => rfl
  | cons p rest ih =>
    have first : loadPiece offset d p = d :=
      reads.snd_read_ne d fun flag mem => apart flag mem p List.mem_cons_self
    rw [List.foldl_cons, first]
    exact ih fun flag mem q hq => apart flag mem q (List.mem_cons_of_mem _ hq)

/-- A flag that has been cleared stays as it is. -/
theorem foldl_clearFlag (mem : flag ∈ flag?) (l : List Piece) :
    l.foldl (loadPiece offset) (clearFlag flag d) = clearFlag flag d := by
  induction l with
  | nil => rfl
  | cons p rest ih =>
    rw [List.foldl_cons]
    by_cases found : (layout (clearFlag flag d)).indexOf?
        (wordOffset (offset + UInt64.ofNat p.first)) = some flag.cause
    · rw [loadPiece, reads.snd_read_cause _ mem found, reads.clear_clear flag mem]
      exact ih
    · rw [loadPiece, reads.snd_read_ne _ fun flag' mem' =>
        Option.mem_unique mem mem' ▸ found]
      exact ih

theorem foldl_cause (mem : flag ∈ flag?) {l : List Piece} (reached : ∃ p ∈ l,
    (layout d).indexOf? (wordOffset (offset + UInt64.ofNat p.first)) = some flag.cause) :
    l.foldl (loadPiece offset) d = clearFlag flag d := by
  induction l with
  | nil => simp at reached
  | cons p rest ih =>
    rw [List.foldl_cons]
    by_cases found : (layout d).indexOf?
        (wordOffset (offset + UInt64.ofNat p.first)) = some flag.cause
    · rw [loadPiece, reads.snd_read_cause _ mem found]
      exact reads.foldl_clearFlag d mem rest
    · rw [loadPiece, reads.snd_read_ne _ fun flag' mem' =>
        Option.mem_unique mem mem' ▸ found]
      obtain ⟨q, hq, later⟩ := reached
      rcases List.mem_cons.1 hq with rfl | hq
      · exact absurd later found
      · exact ih ⟨q, hq, later⟩

theorem snd_load_ne (apart : ∀ flag ∈ flag?, ¬Reaches d offset size flag.cause) :
    (load d offset size).2 = d := by
  rw [snd_load_eq_foldl]
  refine reads.foldl_ne d _ fun flag mem p hp found => apart flag mem ?_
  exact (exists_piece_word (P := fun word => (layout d).indexOf? word = some flag.cause)).1
    ⟨p, hp, found⟩

theorem snd_load_cause (mem : flag ∈ flag?) (reached : Reaches d offset size flag.cause) :
    (load d offset size).2 = clearFlag flag d := by
  rw [snd_load_eq_foldl]
  exact reads.foldl_cause d mem
    ((exists_piece_word (P := fun word => (layout d).indexOf? word = some flag.cause)).2 reached)

/-- Whatever the access has read before, its bytes are those of `d`. -/
theorem fst_load_clearFlag (mem : flag ∈ flag?) (apart : ¬Reaches d offset size flag.status) :
    (load (clearFlag flag d) offset size).1 = (load d offset size).1 := by
  refine eq_of_payloadByte fun k small => ?_
  rw [payloadByte_load _ _ _ small, payloadByte_load _ _ _ small]
  by_cases inside : k < size.bytes
  · rw [if_pos inside, if_pos inside]
    have other : (layout d).indexOf? (wordOffset (offset + UInt64.ofNat k)) ≠ some flag.status :=
      fun found => apart ⟨k, inside, found⟩
    have cleared : atByte (clearFlag flag d) offset size k = clearFlag flag d :=
      reads.foldl_clearFlag d mem _
    have before : (read (atByte d offset size k) (wordOffset (offset + UInt64.ofNat k))).1 =
        (read d (wordOffset (offset + UInt64.ofNat k))).1 := by
      by_cases reached : ∃ p ∈ earlier offset size k, (layout d).indexOf?
          (wordOffset (offset + UInt64.ofNat p.first)) = some flag.cause
      · rw [atByte, reads.foldl_cause d mem reached, reads.fst_read_clearFlag d mem other]
      · rw [atByte, reads.foldl_ne d _ fun flag' mem' p hp found =>
          reached ⟨p, hp, Option.mem_unique mem mem' ▸ found⟩]
    rw [cleared, before, reads.fst_read_clearFlag d mem other]
  · rw [if_neg inside, if_neg inside]

theorem load_load (apart : ∀ flag ∈ flag?,
    ¬(Reaches d offset size flag.cause ∧ Reaches d offset size flag.status)) :
    (load (load d offset size).2 offset size).1 = (load d offset size).1 := by
  by_cases cleared : ∃ flag ∈ flag?, Reaches d offset size flag.cause
  · obtain ⟨flag, mem, reached⟩ := cleared
    rw [reads.snd_load_cause d mem reached]
    exact reads.fst_load_clearFlag d mem fun status => apart flag mem ⟨reached, status⟩
  · rw [reads.snd_load_ne d fun flag mem reached => cleared ⟨flag, mem, reached⟩]

end ReadsClear

end Peripheral

-- ---------------------------------------------------------------------------
-- The models
-- ---------------------------------------------------------------------------

open Peripheral (ReadsClear Reaches wordOffset)

theorem Uart.readsClear : ReadsClear Uart (some ⟨dr, sr, rxne⟩) :=
  .of_fetch ⟨fun _ _ => rfl, fun _ _ _ => rfl⟩
    (fun _ => (by decide : ∀ r ∈ layout, r.onRead = .keep)) (fun _ _ => rfl)
    (fun u => congrArg (fun regs => { u with regs }) (u.regs.clearBits_clearBits sr rxne))
    fun u _ other => u.regs.get_clearBits_ne _ (Ne.symm other) _

theorem Spi.readsClear : ReadsClear Spi (some ⟨dr, sr, rxne⟩) :=
  .of_fetch ⟨fun _ _ => rfl, fun _ _ _ => rfl⟩
    (fun _ => (by decide : ∀ r ∈ layout, r.onRead = .keep)) (fun _ _ => rfl)
    (fun s => congrArg (fun regs => { s with regs }) (s.regs.clearBits_clearBits sr rxne))
    fun s _ other => s.regs.get_clearBits_ne _ (Ne.symm other) _

theorem Adc.readsClear : ReadsClear Adc (some ⟨dr, sr, eoc⟩) :=
  .of_fetch ⟨fun _ _ => rfl, fun _ _ _ => rfl⟩
    (fun _ => (by decide : ∀ r ∈ layout, r.onRead = .keep)) (fun _ _ => rfl)
    (fun a => congrArg (fun regs => { a with regs }) (a.regs.clearBits_clearBits sr eoc))
    fun a _ other => a.regs.get_clearBits_ne _ (Ne.symm other) _

theorem Timer.readsClear : ReadsClear Timer none :=
  .of_still ⟨fun _ _ => rfl, fun _ _ _ => rfl⟩
    (fun _ => (by decide : ∀ r ∈ layout, r.onRead = .keep)) fun _ _ => rfl

theorem Rtc.readsClear : ReadsClear Rtc none :=
  .of_still ⟨fun _ _ => rfl, fun _ _ _ => rfl⟩
    (fun _ => (by decide : ∀ r ∈ layout, r.onRead = .keep)) fun _ _ => rfl

theorem Can.Controller.readsClear : ReadsClear Can.Controller none :=
  .of_still ⟨fun _ _ => rfl, fun _ _ _ => rfl⟩ (fun _ _ => onRead_of_mem_layout) fun _ _ => rfl

theorem MappedController.readsClear : ReadsClear MappedController none :=
  .of_still ⟨fun _ _ => rfl, fun _ _ _ => rfl⟩ (fun _ _ => InterruptView.onRead_of_mem_layout)
    fun _ _ => rfl

/-- `COUNTFLAG` goes by the read action of its own register. -/
theorem SysTick.readsClear : ReadsClear SysTick (some ⟨csr, csr, countflag⟩) where
  toSteadyReads := Peripheral.sysTick_defaultReads.steady
  read_ne s i other :=
    match i with
    | 0 => absurd rfl (other _ rfl)
    | 1 | 2 | 3 | _ + 4 => rfl
  read_cause := by
    rintro _ ⟨rfl⟩ s
    rfl
  clear_clear := by
    rintro _ ⟨rfl⟩ s
    exact congrArg (fun regs => { s with regs }) (s.regs.clearBits_clearBits csr countflag)
  fetch_clear := by
    rintro _ ⟨rfl⟩ s i other
    exact s.regs.get_clearBits_ne _ (Ne.symm other) _

-- ---------------------------------------------------------------------------
-- The contract
-- ---------------------------------------------------------------------------

namespace Device

def IsModel : Device → Prop
  | scratch _ => False
  | _ => True

def readFlag? : Device → Option ReadFlag
  | uart _ => some ⟨Uart.dr, Uart.sr, Uart.rxne⟩
  | spi _ => some ⟨Spi.dr, Spi.sr, Spi.rxne⟩
  | adc _ => some ⟨Adc.dr, Adc.sr, Adc.eoc⟩
  | sysTick _ => some ⟨SysTick.csr, SysTick.csr, SysTick.countflag⟩
  | timer _ | rtc _ | can _ | view _ | scratch _ => none

def clearFlag (d : Device) (flag : ReadFlag) : Device :=
  d.put flag.status (d.held flag.status &&& ~~~flag.mask)

def Touches (d : Device) (offset : UInt64) (size : AccessSize) (i : Nat) : Prop :=
  ∃ k < size.bytes, d.layout.indexOf? (wordOffset (offset + UInt64.ofNat k)) = some i

instance (d : Device) (offset : UInt64) (size : AccessSize) (i : Nat) :
    Decidable (d.Touches offset size i) :=
  inferInstanceAs (Decidable (∃ k, k < _ ∧ _))

def afterRead (d : Device) (offset : UInt64) (size : AccessSize) : Device :=
  match d.readFlag? with
  | some flag => if d.Touches offset size flag.cause then d.clearFlag flag else d
  | none => d

def Repeats (d : Device) (controller : InterruptController) (offset : UInt64) (size : AccessSize) :
    Prop :=
  let first := d.access controller offset size .read 0
  (first.2.1.access first.2.2 offset size .read 0).1 = first.1

instance (d : Device) (controller : InterruptController) (offset : UInt64) (size : AccessSize) :
    Decidable (d.Repeats controller offset size) :=
  inferInstanceAs (Decidable ((_ : UInt64) = _))

structure QuietContract (d : Device) (controller : InterruptController) (offset : UInt64)
    (size : AccessSize) : Prop where
  leaves : ∀ payload, (d.access controller offset size .read payload).2 =
    (d.afterRead offset size, controller)
  /-- Only a read that touches both a flag and the register that clears it may not repeat. -/
  again : (∀ flag ∈ d.readFlag?,
      ¬(d.Touches offset size flag.cause ∧ d.Touches offset size flag.status)) →
    d.Repeats controller offset size
  register : ∀ i, (∀ k < size.bytes,
      d.layout.indexOf? (wordOffset (offset + UInt64.ofNat k)) = some i) →
    (∀ s, d = sysTick s → i ≠ SysTick.csr) → d.Repeats controller offset size

/-- Whatever model a device is, its interface is that of one peripheral whose reads clear the flag
of the model. -/
theorem exists_readsClear {d : Device} (model : d.IsModel) (controller : InterruptController) :
    ∃ (δ : Type) (_ : Peripheral δ) (inner : δ) (outer : δ → Device × InterruptController),
      ReadsClear δ d.readFlag? ∧ Peripheral.layout inner = d.layout ∧
        outer inner = (d, controller) ∧
        (∀ flag, outer (Peripheral.clearFlag flag inner) = (d.clearFlag flag, controller)) ∧
        ∀ (e : δ) {β : Type} (f : (δ : Type) → [Peripheral δ] → δ → β × δ),
          (outer e).1.apply (outer e).2 f = ((f δ e).1, outer (f δ e).2) := by
  cases d with
  | uart u => exact ⟨Uart, inferInstance, u, fun u => (.uart u, controller), Uart.readsClear, rfl,
      rfl, fun _ => rfl, fun _ _ _ => rfl⟩
  | timer t => exact ⟨Timer, inferInstance, t, fun t => (.timer t, controller), Timer.readsClear,
      rfl, rfl, fun _ => rfl, fun _ _ _ => rfl⟩
  | adc a => exact ⟨Adc, inferInstance, a, fun a => (.adc a, controller), Adc.readsClear, rfl, rfl,
      fun _ => rfl, fun _ _ _ => rfl⟩
  | rtc r => exact ⟨Rtc, inferInstance, r, fun r => (.rtc r, controller), Rtc.readsClear, rfl, rfl,
      fun _ => rfl, fun _ _ _ => rfl⟩
  | spi s => exact ⟨Spi, inferInstance, s, fun s => (.spi s, controller), Spi.readsClear, rfl, rfl,
      fun _ => rfl, fun _ _ _ => rfl⟩
  | sysTick s => exact ⟨SysTick, inferInstance, s, fun s => (.sysTick s, controller),
      SysTick.readsClear, rfl, rfl, fun _ => rfl, fun _ _ _ => rfl⟩
  | can c => exact ⟨Can.Controller, inferInstance, c, fun c => (.can c, controller),
      Can.Controller.readsClear, rfl, rfl, fun _ => rfl, fun _ _ _ => rfl⟩
  | view v => exact ⟨MappedController, inferInstance, ⟨v, controller⟩,
      fun m => (.view m.view, m.controller), MappedController.readsClear, rfl, rfl, fun _ => rfl,
      fun _ _ _ => rfl⟩
  | scratch s => exact model.elim

section
variable {d : Device} (model : d.IsModel) (controller : InterruptController) {offset : UInt64}
  {size : AccessSize}
include model

theorem snd_access_read (payload : UInt64) :
    (d.access controller offset size .read payload).2 = (d.afterRead offset size, controller) := by
  obtain ⟨δ, _, inner, outer, reads, layout, whole, cleared, apply⟩ :=
    exists_readsClear model controller
  have loaded : (d.access controller offset size .read payload).2 =
      outer (Peripheral.load inner offset size).2 := by
    have applied := apply inner fun _ _ e => Peripheral.access e offset size .read payload
    rw [whole] at applied
    exact congrArg Prod.snd applied
  have touches (i : Nat) : Reaches inner offset size i ↔ d.Touches offset size i := by
    rw [Reaches, layout, Touches]
  rw [loaded, afterRead]
  cases flagged : d.readFlag? with
  | none =>
    rw [reads.snd_load_ne inner (by simp [flagged])]
    exact whole
  | some flag =>
    dsimp only
    split
    · next touched =>
      rw [reads.snd_load_cause inner flagged ((touches _).2 touched)]
      exact cleared flag
    · next apart =>
      rw [reads.snd_load_ne inner fun flag' mem reached =>
        apart (Option.mem_unique flagged mem ▸ (touches _).1 reached)]
      exact whole

theorem repeats (apart : ∀ flag ∈ d.readFlag?,
    ¬(d.Touches offset size flag.cause ∧ d.Touches offset size flag.status)) :
    d.Repeats controller offset size := by
  obtain ⟨δ, _, inner, outer, reads, layout, whole, -, apply⟩ := exists_readsClear model controller
  have access (e : δ) : (outer e).1.access (outer e).2 offset size .read 0 =
      ((Peripheral.load e offset size).1, outer (Peripheral.load e offset size).2) :=
    apply e fun _ _ e => Peripheral.access e offset size .read 0
  have first := access inner
  rw [whole] at first
  unfold Repeats
  rw [first]
  dsimp only
  rw [access]
  refine reads.load_load inner fun flag mem => ?_
  rw [Reaches, Reaches, layout]
  exact apart flag mem

theorem quietContract : QuietContract d controller offset size where
  leaves := snd_access_read model controller
  again := repeats model controller
  register i inside other := by
    refine repeats model controller fun flag mem touched => ?_
    obtain ⟨⟨k, hk, cause⟩, k', hk', status⟩ := touched
    have first := Option.some.inj ((inside k hk).symm.trans cause)
    have second := Option.some.inj ((inside k' hk').symm.trans status)
    -- only `COUNTFLAG` is in the register that clears it
    cases d with
    | sysTick s => exact other s rfl (by rw [first]; cases mem; rfl)
    | uart u => cases mem; exact absurd (first.symm.trans second) (by decide)
    | spi s => cases mem; exact absurd (first.symm.trans second) (by decide)
    | adc a => cases mem; exact absurd (first.symm.trans second) (by decide)
    | timer _ | rtc _ | can _ | view _ | scratch _ => cases mem

end

/-- The exception is one: the first of two reads clears `COUNTFLAG`. -/
example :
    ¬(sysTick { regs := (RegisterFile.reset _).setBits SysTick.csr SysTick.countflag }).Repeats
      (.withLines 32) 0x00 .word := by
  decide +kernel

def received : Device := uart ((({} : Uart).pushReceived [0x41]).advance 0).1

/-- A word from the last byte of `SR` on: its other bytes are those of `DR`, so `RXNE` goes. -/
theorem quietContract_straddling :
    received.IsModel ∧ QuietContract received (.withLines 32) 0x03 .word ∧
      received.Touches 0x03 .word Uart.dr ∧ received.held Uart.sr = 0xE0 ∧
      ((received.access (.withLines 32) 0x03 .word .read 0).2.1).held Uart.sr = 0xC0 := by
  have model : received.IsModel := trivial
  exact ⟨model, quietContract model _, by decide +kernel, by decide +kernel, by decide +kernel⟩

end Device

end BoardSim
