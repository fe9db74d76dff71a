import BoardSim.Proofs.Peripheral.Bits
import BoardSim.Proofs.Peripheral.Countdown
import BoardSim.Proofs.Peripheral.Extent
import BoardSim.Proofs.Rtc.Halves

/-!
# What protects the real-time clock

Each register write of an access finds the clock in configuration mode or not, and outside it no
value changes. Time does nothing to the clock that is being configured, and firmware does nothing to
the flags but clear them, in the byte of `CRL` that has them (`status_store`). The bits of `CRL` and
the ranges of the registers are what every run keeps (`Sound.after`).
-/

namespace BoardSim.Rtc

open Peripheral (Operation perform payloadByte Piece wordOffset)

def control : UInt32 := secf ||| alrf ||| owf ||| cnf ||| rtoff

structure SameValues (r s : Rtc) : Prop where
  prl : s.prl = r.prl
  div : s.div = r.div
  cnt : s.cnt = r.cnt
  alr : s.alr = r.alr

variable {r s : Rtc}

theorem SameValues.refl (r : Rtc) : SameValues r r := ⟨rfl, rfl, rfl, rfl⟩

-- ---------------------------------------------------------------------------
-- One register operation
-- ---------------------------------------------------------------------------

theorem settle_eq (r : Rtc) (i : Nat) : Peripheral.settle r i = r :=
  Peripheral.settle_of_keep (by decide : ∀ r ∈ layout, r.onRead = .keep) i

theorem perform_read (r : Rtc) (i : Nat) : perform r (.read i) = r := settle_eq r i

/-- What a register write does: the controls change no value, and the other registers are written in
configuration mode only. -/
theorem commit_cases (r : Rtc) (i : Nat) (word : UInt32) :
    (i = crl ∧ r.commit i word = r.writeControl word) ∨
      (i = crh ∧ r.commit i word = { r with regs := r.regs.store crh word }) ∨
      (i ≠ crl ∧ r.configuring = true ∧ r.commit i word = r.writeProtected i word) ∨
      (i ≠ crl ∧ r.configuring = false ∧ r.commit i word = r) := by
  unfold commit
  split
  · next status => exact .inl ⟨status, rfl⟩
  · next status =>
    split
    · next enables => exact .inr (.inl ⟨enables, rfl⟩)
    · split
      · next configuring => exact .inr (.inr (.inl ⟨status, configuring, rfl⟩))
      · next locked => exact .inr (.inr (.inr ⟨status, Bool.eq_false_iff.2 locked, rfl⟩))

theorem sameValues_of_locked (locked : r.configuring = false) (operation : Operation) :
    SameValues r (perform r operation) := by
  cases operation with
  | read i => rw [perform_read]; exact .refl r
  | write i word =>
    show SameValues r (r.commit i word)
    rcases r.commit_cases i word with ⟨-, eq⟩ | ⟨-, eq⟩ | ⟨-, configuring, -⟩ | ⟨-, -, eq⟩
    · exact eq ▸ ⟨rfl, rfl, rfl, rfl⟩
    · exact eq ▸ ⟨rfl, rfl, rfl, rfl⟩
    · exact absurd configuring (Bool.eq_false_iff.1 locked)
    · exact eq.symm ▸ .refl r

/-- Only a write of `CRL` enters or leaves configuration mode. -/
theorem sameValues_of_switch {operation : Operation}
    (switch : (perform r operation).configuring ≠ r.configuring) :
    SameValues r (perform r operation) := by
  cases operation with
  | read i => rw [perform_read]; exact .refl r
  | write i word =>
    show SameValues r (r.commit i word)
    rcases r.commit_cases i word with ⟨-, eq⟩ | ⟨-, eq⟩ | ⟨-, -, eq⟩ | ⟨-, -, eq⟩
    · exact eq ▸ ⟨rfl, rfl, rfl, rfl⟩
    · exact eq ▸ ⟨rfl, rfl, rfl, rfl⟩
    · refine absurd ?_ switch
      show (r.commit i word).configuring = r.configuring
      rw [eq, configuring, (r.writeProtected_frame i word).1, configuring]
    · exact eq.symm ▸ .refl r

theorem get_commit_crl_ne (r : Rtc) {i : Nat} (other : i ≠ crl) (word : UInt32) :
    (r.commit i word).regs.get crl = r.regs.get crl := by
  rcases r.commit_cases i word with ⟨status, -⟩ | ⟨-, eq⟩ | ⟨-, -, eq⟩ | ⟨-, -, eq⟩
  · exact absurd status other
  · rw [eq]
    exact RegisterFile.get_store_ne _ _ (by decide) _
  · rw [eq, (r.writeProtected_frame i word).1]
  · rw [eq]

-- ---------------------------------------------------------------------------
-- Time
-- ---------------------------------------------------------------------------

/-- Nothing but the clock's own fraction of a cycle moves while the clock is being configured. -/
theorem advance_of_configuring (configuring : r.configuring = true) (nanos : Nat) :
    (r.advance nanos).1 = { r with clock := (r.clock.advance nanos).2 } := by
  have still : ({ r with clock := (r.clock.advance nanos).2 } : Rtc).configuring = true :=
    configuring
  simp only [advance, still, Bool.or_true, if_true]

theorem anySet_eventsOf (r : Rtc) (seconds : UInt64) {mask : UInt32}
    (apart : (secf ||| owf ||| alrf) &&& mask = 0) : anySet (r.eventsOf seconds) mask = false := by
  have none : anySet (secf ||| owf ||| alrf) mask = false := by rw [anySet, apart]; rfl
  rw [anySet_or, anySet_or, Bool.or_eq_false_iff, Bool.or_eq_false_iff] at none
  obtain ⟨⟨second, overflow⟩, alarm⟩ := none
  unfold eventsOf
  dsimp only
  rw [anySet_or, anySet_or, second, Bool.false_or, Bool.or_eq_false_iff]
  constructor
  · split
    · exact overflow
    · simp [anySet]
  · split
    · exact alarm
    · simp [anySet]

/-- Time leaves every bit of `CRL` alone but the flags of events. -/
theorem anySet_crl_advance (r : Rtc) (nanos : Nat) {mask : UInt32}
    (apart : (secf ||| owf ||| alrf) &&& mask = 0) :
    anySet ((r.advance nanos).1.regs.get crl) mask = anySet (r.regs.get crl) mask := by
  simp only [advance]
  split
  · rfl
  · simp only [run]
    split
    · rfl
    · rw [RegisterFile.get_setBits _ (by decide), anySet_or, anySet_eventsOf _ _ apart,
        Bool.or_false]

theorem configuring_advance (r : Rtc) (nanos : Nat) :
    (r.advance nanos).1.configuring = r.configuring :=
  r.anySet_crl_advance nanos (by decide)

-- ---------------------------------------------------------------------------
-- What every run keeps
-- ---------------------------------------------------------------------------

structure Sound (r : Rtc) : Prop where
  finished : anySet (r.regs.get crl) rtoff = true
  bits : anySet (r.regs.get crl) (~~~control) = false
  prl : r.prl.toNat < 2 ^ 20
  div : r.div.toNat < 2 ^ 20
  crh : (r.regs.get crh).toNat < 2 ^ 3

theorem get_writeControl (r : Rtc) (word : UInt32) : (r.writeControl word).regs.get crl =
    (r.regs.get crl &&& word &&& flags) ||| (word &&& cnf) ||| (r.regs.get crl &&& rtoff) :=
  RegisterFile.get_set _ (by decide) _

theorem anySet_and_left {word bits : UInt32} (none : anySet word bits = false) (other : UInt32) :
    anySet (word &&& other) bits = false := by
  have zero : word &&& bits = 0 := by simpa [anySet] using none
  rw [anySet, UInt32.and_assoc, UInt32.and_comm other, ← UInt32.and_assoc, zero, UInt32.zero_and]
  rfl

theorem toNat_setHigh_lt {word half : UInt32} (narrow : half.toNat < 2 ^ 4) :
    (setHigh word half).toNat < 2 ^ 20 := by
  rw [setHigh, UInt32.toNat_or, UInt32.toNat_and, UInt32.toNat_shiftLeft]
  refine Nat.or_lt_two_pow (Nat.lt_of_le_of_lt Nat.and_le_right (by decide)) ?_
  rw [Nat.shiftLeft_eq]
  exact Nat.lt_of_le_of_lt (Nat.mod_le _ _) (Nat.mul_lt_mul_of_pos_right narrow (by decide))

theorem toNat_setLow_lt {word half : UInt32} (narrow : word.toNat < 2 ^ 20) :
    (setLow word half).toNat < 2 ^ 20 := by
  rw [setLow, UInt32.toNat_or, UInt32.toNat_and, UInt32.toNat_and]
  exact Nat.or_lt_two_pow (Nat.lt_of_le_of_lt Nat.and_le_left narrow)
    (Nat.lt_of_le_of_lt Nat.and_le_right (by decide))

theorem toNat_prl_writeProtected_lt (narrow : r.prl.toNat < 2 ^ 20) (i : Nat) (word : UInt32) :
    (r.writeProtected i word).prl.toNat < 2 ^ 20 := by
  unfold writeProtected
  split
  · refine toNat_setHigh_lt ?_
    rw [UInt32.toNat_and]
    exact Nat.lt_of_le_of_lt Nat.and_le_right (by decide)
  · exact toNat_setLow_lt narrow
  all_goals exact narrow

theorem kept_sound : Peripheral.Kept Sound where
  fetch _ _ h := h
  settle r i h := by rwa [settle_eq]
  commit r i word h := by
    show Sound (r.commit i word)
    rcases r.commit_cases i word with ⟨-, eq⟩ | ⟨-, eq⟩ | ⟨-, -, eq⟩ | ⟨-, -, eq⟩
    · rw [eq]
      refine ⟨?_, ?_, h.prl, h.div, ?_⟩
      · rw [get_writeControl, anySet_or, anySet_and (by decide), h.finished, Bool.or_true]
      · rw [get_writeControl, anySet_or, anySet_or, UInt32.and_assoc, anySet_and_left h.bits,
          anySet_and_left h.bits, not_anySet_and (by decide)]
        rfl
      · rw [writeControl, RegisterFile.get_set_ne _ (by decide)]
        exact h.crh
    · have status : (r.regs.store crh word).get crl = r.regs.get crl :=
        RegisterFile.get_store_ne _ _ (by decide) _
      rw [eq]
      refine ⟨status.symm ▸ h.finished, status.symm ▸ h.bits, h.prl, h.div, ?_⟩
      rw [RegisterFile.get_store _ (by decide)]
      exact Register.toNat_store_lt (by decide) h.crh _
    · obtain ⟨regs, -, div⟩ := r.writeProtected_frame i word
      rw [eq]
      have prl := toNat_prl_writeProtected_lt h.prl i word
      exact ⟨regs ▸ h.finished, regs ▸ h.bits, prl, div ▸ h.div, regs ▸ h.crh⟩
    · exact eq.symm ▸ h

/-- Down to zero or on from the reload value, the divider stays in its range. -/
theorem toNat_divide_lt (h : Sound r) (cycles : UInt64) : (r.divide cycles).1.toNat < 2 ^ 20 := by
  unfold divide
  dsimp only
  split
  · next short =>
    rw [Countdown.toUInt32_left r.div (by simpa [UInt64.le_iff_toNat_le] using short),
      UInt32.toNat_ofNat']
    exact Nat.lt_of_le_of_lt ((Nat.mod_le _ _).trans (Nat.sub_le _ _)) h.div
  · have phase : ((cycles - r.div.toUInt64 - 1) % (r.prl.toUInt64 + 1)).toNat ≤ r.prl.toNat := by
      rw [UInt64.toNat_mod, toNat_succ_toUInt64]
      exact Nat.lt_succ_iff.1 (Nat.mod_lt _ (Nat.succ_pos _))
    rw [Countdown.toUInt32_left r.prl phase, UInt32.toNat_ofNat']
    exact Nat.lt_of_le_of_lt ((Nat.mod_le _ _).trans (Nat.sub_le _ _)) h.prl

theorem Sound.advance (h : Sound r) (nanos : Nat) : Sound (r.advance nanos).1 where
  finished := (r.anySet_crl_advance nanos (by decide)).trans h.finished
  bits := (r.anySet_crl_advance nanos (by decide)).trans h.bits
  prl := by
    simp only [Rtc.advance]
    split
    · exact h.prl
    · simp only [run]
      split <;> exact h.prl
  div := by
    simp only [Rtc.advance]
    split
    · exact h.div
    · have lt := toNat_divide_lt (r := { r with clock := (r.clock.advance nanos).2 })
        ⟨h.finished, h.bits, h.prl, h.div, h.crh⟩ (r.clock.advance nanos).1
      simp only [run]
      split <;> exact lt
  crh := by
    rw [get_advance_ne _ _ (by decide)]
    exact h.crh

theorem Sound.act (h : Sound r) (action : Action) : Sound (r.act action) := by
  cases action with
  | access offset size direction payload => exact kept_sound.access h offset size direction payload
  | advance nanos => exact h.advance nanos

theorem Sound.after (h : Sound r) (actions : List Action) : Sound (r.after actions) := by
  induction actions generalizing r with
  | nil => exact h
  | cons action rest ih => exact ih (h.act action)

theorem sound_withClock (hz : UInt64) : Sound (withClock hz) := by
  have status : (withClock hz).regs.get crl = rtoff := RegisterFile.get_reset (by decide)
  have enables : (withClock hz).regs.get crh = 0 := RegisterFile.get_reset (by decide)
  refine ⟨?_, ?_, ?_, ?_, ?_⟩
  · rw [status]; decide
  · rw [status]; decide
  · show (0x8000 : UInt32).toNat < 2 ^ 20
    decide
  · show (0x8000 : UInt32).toNat < 2 ^ 20
    decide
  · rw [enables]; decide

-- ---------------------------------------------------------------------------
-- Flags
-- ---------------------------------------------------------------------------

def status (r : Rtc) (b : Nat) : Bool := (r.regs.get crl).toBitVec.getLsbD b

/-- Byte `k` of the access is the lowest of `CRL`, and a write of it leaves bit `b` set. -/
def Spares (offset payload : UInt64) (b k : Nat) : Prop :=
  offset + UInt64.ofNat k = 0x04 → (payloadByte payload k).toBitVec.getLsbD b = true

theorem status_storeWord_ne (b : Nat) {offset : UInt64} (elsewhere : wordOffset offset ≠ 0x04)
    (n : Nat) (payload : UInt64) :
    (Peripheral.storeWord r offset n payload).status b = r.status b := by
  cases found : layout.indexOf? (wordOffset offset) with
  | none => rw [Peripheral.storeWord_of_none _ found]
  | some i =>
    have other : i ≠ crl := by
      rintro rfl
      exact elsewhere (Option.some.inj (Layout.offset_of_indexOf? found)).symm
    rw [Peripheral.storeWord_of_some found (List.getElem?_eq_getElem (Layout.indexOf?_lt found))]
    show (r.commit i _).status b = _
    rw [status, get_commit_crl_ne r other, status]

/-- The lowest byte of `CRL` can only be the first one of a piece. -/
theorem forall_spares_iff {offset payload : UInt64} {size : AccessSize} {p : Piece} {b : Nat}
    (mem : p ∈ Peripheral.pieces offset size)
    (here : wordOffset (offset + UInt64.ofNat p.first) = 0x04) :
    (∀ k, p.Covers k → Spares offset payload b k) ↔
      ((offset + UInt64.ofNat p.first).toNat % 4 = 0 →
        (payloadByte payload p.first).toBitVec.getLsbD b = true) := by
  obtain ⟨positive, fits, within⟩ := Peripheral.inside_of_mem mem
  constructor
  · intro spares aligned
    refine spares p.first ⟨le_rfl, by omega⟩ (UInt64.toNat_inj.1 ?_)
    have word := congrArg UInt64.toNat here
    rw [Peripheral.toNat_wordOffset] at word
    simp only [UInt64.reduceToNat] at word ⊢
    omega
  · intro spared k covers there
    have lane := (Peripheral.wordOffset_of_covers mem covers).2
    have reached := covers.1
    rw [there] at lane
    simp only [UInt64.reduceToNat] at lane
    obtain rfl : k = p.first := by omega
    exact spared (by omega)

section
variable {b : Nat} (flag : b < 4)
include flag

/-- A written 0 clears the flag. -/
theorem status_writeControl (r : Rtc) (word : UInt32) :
    (r.writeControl word).status b = (r.status b && word.toBitVec.getLsbD b) := by
  have bits : ∀ b < 4, (0xF#32).getLsbD b = true ∧ (0x10#32).getLsbD b = false ∧
      (0x20#32).getLsbD b = false := by decide
  obtain ⟨held, mode, off⟩ := bits b flag
  rw [status, get_writeControl]
  simp [held, mode, off, status]

/-- A write of some lanes of `CRL` clears the flag if the lowest is among them and has a 0. -/
theorem status_storeWord {offset : UInt64} (here : wordOffset offset = 0x04) {n : Nat} (hn : 0 < n)
    (fits : offset.toNat % 4 + n ≤ 4) (payload : UInt64) :
    (Peripheral.storeWord r offset n payload).status b =
      (r.status b && (decide (offset.toNat % 4 ≠ 0) || payload.toBitVec.getLsbD b)) := by
  have found : layout.indexOf? (wordOffset offset) = some crl := here ▸ rfl
  have merged (reg : Register) (plain : (reg.writable, reg.onWrite) = (0xFFFFFFFF, .replace)) :
      (reg.mergeLanes (r.regs.get crl) (Peripheral.laneMask offset n)
        (payload.toUInt32 <<< Peripheral.laneShift offset)).toBitVec.getLsbD b =
          if offset.toNat % 4 = 0 then payload.toBitVec.getLsbD b else r.status b := by
    rw [← Register.store_of_plain plain (r.regs.get crl) (reg.mergeLanes _ _ _),
      Register.getLsbD_store_mergeLanes _ _ _ _ (by omega), Register.store_of_plain plain,
      Peripheral.getLsbD_laneMask offset hn fits (by omega),
      Peripheral.getLsbD_lanes _ _ (by omega), status]
    by_cases lowest : offset.toNat % 4 = 0
    · simp [lowest]
      omega
    · rw [if_neg lowest, decide_eq_false (by omega), if_neg Bool.false_ne_true]
  rw [Peripheral.storeWord_of_some found (r := layout[crl]) rfl]
  show (r.writeControl _).status b = _
  rw [status_writeControl flag]
  show (r.status b && (Register.mergeLanes _ (r.regs.get crl) _ _).toBitVec.getLsbD b) = _
  rw [merged _ rfl]
  by_cases lowest : offset.toNat % 4 = 0
  · simp [lowest]
  · simp [lowest]

theorem status_storePiece {offset payload : UInt64} {size : AccessSize} {p : Piece}
    (mem : p ∈ Peripheral.pieces offset size) (r : Rtc) :
    (Peripheral.storePiece offset payload r p).status b = true ↔
      r.status b = true ∧ ∀ k, p.Covers k → Spares offset payload b k := by
  have short : size.bytes ≤ 8 := by cases size <;> decide
  obtain ⟨positive, fits, within⟩ := Peripheral.inside_of_mem mem
  by_cases here : wordOffset (offset + UInt64.ofNat p.first) = 0x04
  · have lowest : (payload >>> UInt64.ofNat (8 * p.first)).toBitVec.getLsbD b =
        (payloadByte payload p.first).toBitVec.getLsbD b := by
      have byte := Peripheral.payloadByte_shiftRight payload (i := p.first) (k := 0) (by omega)
      rw [Nat.add_zero, Nat.mul_comm] at byte
      rw [← byte, Peripheral.getLsbD_payloadByte _ (by decide) (by omega), Nat.mul_zero,
        Nat.zero_add]
    rw [Peripheral.storePiece, status_storeWord flag here positive fits, lowest,
      forall_spares_iff mem here, Bool.and_eq_true, Bool.or_eq_true, decide_eq_true_iff,
      ← Decidable.imp_iff_not_or]
  · rw [Peripheral.storePiece, status_storeWord_ne b here]
    refine ⟨fun set => ⟨set, fun k covers there => absurd ?_ here⟩, And.left⟩
    rw [← (Peripheral.wordOffset_of_covers mem covers).1, there]
    rfl

theorem status_foldl {offset payload : UInt64} {size : AccessSize} {list : List Piece}
    (within : ∀ p ∈ list, p ∈ Peripheral.pieces offset size) (r : Rtc) :
    (list.foldl (Peripheral.storePiece offset payload) r).status b = true ↔
      r.status b = true ∧ ∀ p ∈ list, ∀ k, p.Covers k → Spares offset payload b k := by
  induction list generalizing r with
  | nil => simp
  | cons p rest ih =>
    rw [List.foldl_cons, ih (fun q mem => within q (List.mem_cons_of_mem _ mem)),
      status_storePiece flag (within p List.mem_cons_self), and_assoc, List.forall_mem_cons]

/-- A flag survives a write unless the write has a 0 for it in the byte that it lies in. -/
theorem status_store (r : Rtc) (offset : UInt64) (size : AccessSize) (payload : UInt64) :
    (Peripheral.store r offset size payload).status b = true ↔
      r.status b = true ∧ ∀ k < size.bytes, Spares offset payload b k := by
  rw [Peripheral.store_eq_foldl, status_foldl flag fun _ mem => mem]
  refine and_congr_right fun _ => ⟨fun spares k inside => ?_, fun spares p mem k covers => ?_⟩
  · obtain ⟨p, mem, covers⟩ := Peripheral.exists_covers.2 inside
    exact spares p mem k covers
  · exact spares k (Peripheral.exists_covers.1 ⟨p, mem, covers⟩)

end

-- ---------------------------------------------------------------------------
-- The contract
-- ---------------------------------------------------------------------------

/-- In some access to `r` the operation finds the clock in state `s`. -/
def Meets (r s : Rtc) (operation : Operation) : Prop :=
  ∃ offset size direction payload done rest,
    Peripheral.operations r offset size direction payload = done ++ operation :: rest ∧
      s = done.foldl perform r

structure ProtectionContract (r : Rtc) : Prop where
  finished : anySet (r.regs.get crl) rtoff = true
  bits : r.regs.get crl &&& ~~~(secf ||| alrf ||| owf ||| cnf ||| rtoff) = 0
  prl : r.prl < 0x100000
  div : r.div < 0x100000
  crh : r.regs.get crh < 8
  performed : ∀ offset size direction payload,
    (Peripheral.access r offset size direction payload).2 =
      (Peripheral.operations r offset size direction payload).foldl perform r
  locked : ∀ s operation, r.Meets s operation → s.configuring = false →
    SameValues s (perform s operation)
  switched : ∀ s operation, r.Meets s operation →
    (perform s operation).configuring ≠ s.configuring → SameValues s (perform s operation)
  mode : ∀ nanos, (r.advance nanos).1.configuring = r.configuring
  still : r.configuring = true → ∀ nanos,
    SameValues r (r.advance nanos).1 ∧ (r.advance nanos).1.regs = r.regs
  /-- After an access a flag is set if it was set before and the access writes no 0 to it. -/
  flags : ∀ flag ∈ [secf, alrf, owf], ∀ offset size direction payload,
    anySet ((Peripheral.access r offset size direction payload).2.regs.get crl) flag = true ↔
      anySet (r.regs.get crl) flag = true ∧
        (direction = .write → ∀ k < size.bytes, offset + UInt64.ofNat k = 0x04 →
          anySet (payloadByte payload k).toUInt32 flag = true)

theorem snd_access_read (r : Rtc) (offset : UInt64) (size : AccessSize) (payload : UInt64) :
    (Peripheral.access r offset size .read payload).2 = r := by
  refine Peripheral.snd_load (fun r word => ?_) r offset size
  unfold Peripheral.read
  split
  · rfl
  · exact settle_eq r _

theorem exists_place {flag : UInt32} (known : flag ∈ [secf, alrf, owf]) :
    ∃ b, b < 4 ∧ flag.toBitVec = BitVec.twoPow 32 b ∧ flag ≠ 0 := by
  simp only [List.mem_cons, List.not_mem_nil, or_false] at known
  rcases known with rfl | rfl | rfl
  · exact ⟨0, by decide, by decide, by decide⟩
  · exact ⟨1, by decide, by decide, by decide⟩
  · exact ⟨2, by decide, by decide, by decide⟩

theorem anySet_access {flag : UInt32} (known : flag ∈ [secf, alrf, owf]) (r : Rtc)
    (offset : UInt64) (size : AccessSize) (direction : Direction) (payload : UInt64) :
    anySet ((Peripheral.access r offset size direction payload).2.regs.get crl) flag = true ↔
      anySet (r.regs.get crl) flag = true ∧
        (direction = .write → ∀ k < size.bytes, offset + UInt64.ofNat k = 0x04 →
          anySet (payloadByte payload k).toUInt32 flag = true) := by
  obtain ⟨b, small, single, nonzero⟩ := exists_place known
  have byte (x : UInt8) : x.toUInt32.toBitVec.getLsbD b = x.toBitVec.getLsbD b := by
    simp only [UInt8.toBitVec_toUInt32, BitVec.getLsbD_setWidth]
    rw [decide_eq_true (by omega), Bool.true_and]
  simp only [anySet_of_twoPow single nonzero, byte]
  cases direction with
  | read => simp [snd_access_read]
  | write =>
    simp only [forall_const]
    exact status_store small r offset size payload

theorem Sound.protectionContract (h : Sound r) : ProtectionContract r where
  finished := h.finished
  bits := by simpa [anySet, control] using h.bits
  prl := UInt32.lt_iff_toNat_lt.2 h.prl
  div := UInt32.lt_iff_toNat_lt.2 h.div
  crh := UInt32.lt_iff_toNat_lt.2 h.crh
  performed offset size direction payload :=
    (Peripheral.foldl_perform_operations r offset size direction payload).symm
  locked _ operation _ locked := sameValues_of_locked locked operation
  switched _ _ _ := sameValues_of_switch
  mode := r.configuring_advance
  still configuring nanos := by
    rw [advance_of_configuring configuring]
    exact ⟨⟨rfl, rfl, rfl, rfl⟩, rfl⟩
  flags _ known := anySet_access known r

/-- Whatever firmware and time have done before. -/
theorem protectionContract_after (hz : UInt64) (actions : List Action) :
    ProtectionContract ((withClock hz).after actions) :=
  ((sound_withClock hz).after actions).protectionContract

end BoardSim.Rtc
