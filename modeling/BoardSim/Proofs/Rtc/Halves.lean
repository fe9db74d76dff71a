import BoardSim.Peripheral.Rtc
import BoardSim.Proofs.Peripheral.Reach

/-!
# The protected registers of the real-time clock

Reload value, counter and alarm are written in halves. The halves live outside the register bank,
and a write of some lanes of a word fills the other lanes from the bank. So such a write takes its
own lanes, and clears what else there is in the half (`laneContract`).
-/

namespace BoardSim.Rtc

/-- The registers that stand for a half. -/
def halves : List Nat := [prlh, prll, cnth, cntl, alrh, alrl]

def width (i : Nat) : Nat := if i = prlh then 4 else 16

def half (r : Rtc) (i : Nat) : UInt32 :=
  match i with
  | prlh => highHalf r.prl
  | prll => lowHalf r.prl
  | cnth => highHalf r.cnt
  | cntl => lowHalf r.cnt
  | alrh => highHalf r.alr
  | alrl => lowHalf r.alr
  | _ => 0

-- ---------------------------------------------------------------------------
-- Halves of a word
-- ---------------------------------------------------------------------------

theorem getLsbD_highHalf (word : UInt32) (b : Nat) :
    (highHalf word).toBitVec.getLsbD b = word.toBitVec.getLsbD (16 + b) := by
  simp [highHalf]

theorem getLsbD_lowMask (b : Nat) : (0xFFFF#32).getLsbD b = decide (b < 16) := by
  have low : (0xFFFF#32) = (BitVec.allOnes 16).setWidth 32 := by decide
  rw [low, BitVec.getLsbD_setWidth, BitVec.getLsbD_allOnes]
  grind

theorem getLsbD_highMask (b : Nat) :
    (0xFFFF0000#32).getLsbD b = decide (16 ≤ b ∧ b < 32) := by
  have others : (0xFFFF0000#32) = ~~~0xFFFF#32 := by decide
  rw [others, BitVec.getLsbD_not, getLsbD_lowMask]
  grind

theorem getLsbD_lowHalf (word : UInt32) (b : Nat) :
    (lowHalf word).toBitVec.getLsbD b = (decide (b < 16) && word.toBitVec.getLsbD b) := by
  simp [lowHalf, getLsbD_lowMask, Bool.and_comm]

theorem getLsbD_setHigh (word half : UInt32) (b : Nat) :
    (setHigh word half).toBitVec.getLsbD b = if b < 16 then word.toBitVec.getLsbD b
      else decide (b < 32) && half.toBitVec.getLsbD (b - 16) := by
  simp [setHigh, getLsbD_lowMask]
  grind

theorem getLsbD_setLow (word half : UInt32) (b : Nat) :
    (setLow word half).toBitVec.getLsbD b =
      if b < 16 then half.toBitVec.getLsbD b else word.toBitVec.getLsbD b := by
  simp [setLow, getLsbD_highMask, getLsbD_lowMask]
  grind

/-- A word is its two halves. -/
theorem eq_of_halves {a b : UInt32} (high : highHalf a = highHalf b)
    (low : lowHalf a = lowHalf b) : a = b := by
  refine word_ext fun k inside => ?_
  by_cases below : k < 16
  · have bit := congrArg (·.toBitVec.getLsbD k) low
    simpa only [getLsbD_lowHalf, below, decide_true, Bool.true_and] using bit
  · have bit := congrArg (·.toBitVec.getLsbD (k - 16)) high
    have back : 16 + (k - 16) = k := by omega
    simpa only [getLsbD_highHalf, back] using bit

theorem highHalf_setHigh (word half : UInt32) : highHalf (setHigh word half) = half &&& 0xFFFF := by
  refine word_ext fun k inside => ?_
  rw [getLsbD_highHalf, getLsbD_setHigh]
  simp [getLsbD_lowMask]
  grind

theorem lowHalf_setLow (word half : UInt32) : lowHalf (setLow word half) = half &&& 0xFFFF := by
  refine word_ext fun k inside => ?_
  rw [getLsbD_lowHalf, getLsbD_setLow]
  simp [getLsbD_lowMask]
  grind

theorem highHalf_setLow (word half : UInt32) : highHalf (setLow word half) = highHalf word := by
  refine word_ext fun k inside => ?_
  rw [getLsbD_highHalf, getLsbD_setLow, if_neg (by omega), getLsbD_highHalf]

theorem lowHalf_setHigh (word half : UInt32) : lowHalf (setHigh word half) = lowHalf word := by
  refine word_ext fun k inside => ?_
  rw [getLsbD_lowHalf, getLsbD_setHigh, getLsbD_lowHalf]
  grind

-- ---------------------------------------------------------------------------
-- A register write
-- ---------------------------------------------------------------------------

/-- A clock is what it has outside the halves, and the halves. -/
theorem ext_halves {r s : Rtc} (regs : s.regs = r.regs) (clock : s.clock = r.clock)
    (div : s.div = r.div) (same : ∀ i ∈ halves, s.half i = r.half i) : s = r := by
  have prl : s.prl = r.prl := eq_of_halves (same prlh (by decide)) (same prll (by decide))
  have cnt : s.cnt = r.cnt := eq_of_halves (same cnth (by decide)) (same cntl (by decide))
  have alr : s.alr = r.alr := eq_of_halves (same alrh (by decide)) (same alrl (by decide))
  cases r
  cases s
  simp_all

theorem writeProtected_frame (r : Rtc) (i : Nat) (word : UInt32) :
    (r.writeProtected i word).regs = r.regs ∧ (r.writeProtected i word).clock = r.clock ∧
      (r.writeProtected i word).div = r.div := by
  unfold writeProtected
  split <;> exact ⟨rfl, rfl, rfl⟩

def used (i : Nat) : UInt32 := if i = prlh then 0xF else 0xFFFF

theorem getLsbD_used (i b : Nat) : (used i).toBitVec.getLsbD b = decide (b < width i) := by
  unfold used width
  split
  · have low : (0xF#32) = (BitVec.allOnes 4).setWidth 32 := by decide
    show (0xF#32).getLsbD b = _
    rw [low, BitVec.getLsbD_setWidth, BitVec.getLsbD_allOnes]
    grind
  · exact getLsbD_lowMask b

theorem and_used_eq_iff {i : Nat} {a b : UInt32} :
    a &&& used i = b &&& used i ↔
      ∀ k < width i, a.toBitVec.getLsbD k = b.toBitVec.getLsbD k := by
  constructor
  · intro same k within
    have bit := congrArg (·.toBitVec.getLsbD k) same
    simpa [getLsbD_used, within] using bit
  · intro same
    refine word_ext fun k inside => ?_
    rw [UInt32.toBitVec_and, UInt32.toBitVec_and, BitVec.getLsbD_and, BitVec.getLsbD_and,
      getLsbD_used]
    by_cases within : k < width i
    · rw [same k within]
    · simp [within]

section
variable {i : Nat} (mem : i ∈ halves)
include mem

theorem half_writeProtected (r : Rtc) (word : UInt32) :
    (r.writeProtected i word).half i = word &&& used i := by
  simp only [halves, List.mem_cons, List.not_mem_nil, or_false] at mem
  rcases mem with rfl | rfl | rfl | rfl | rfl | rfl
  · exact (highHalf_setHigh _ _).trans (UInt32.and_assoc ..)
  · exact lowHalf_setLow _ _
  · exact highHalf_setHigh _ _
  · exact lowHalf_setLow _ _
  · exact highHalf_setHigh _ _
  · exact lowHalf_setLow _ _

theorem half_writeProtected_ne (r : Rtc) (word : UInt32) {j : Nat} (other : j ≠ i) :
    (r.writeProtected i word).half j = r.half j := by
  have high (held : UInt32) : highHalf (setLow held word) = highHalf held := highHalf_setLow _ _
  have low (held half : UInt32) : lowHalf (setHigh held half) = lowHalf held := lowHalf_setHigh _ _
  simp only [halves, List.mem_cons, List.not_mem_nil, or_false] at mem
  rcases mem with rfl | rfl | rfl | rfl | rfl | rfl
  all_goals
    unfold half
    split <;> first | exact absurd rfl other | rfl | exact high _ | exact low _ _

theorem writeProtected_eq_iff (r : Rtc) {a b : UInt32} :
    r.writeProtected i a = r.writeProtected i b ↔ a &&& used i = b &&& used i := by
  constructor
  · intro same
    rw [← half_writeProtected mem r a, same, half_writeProtected mem]
  · intro same
    obtain ⟨regs, clock, div⟩ := r.writeProtected_frame i a
    obtain ⟨regs', clock', div'⟩ := r.writeProtected_frame i b
    refine ext_halves (regs.trans regs'.symm) (clock.trans clock'.symm) (div.trans div'.symm) ?_
    intro j _
    by_cases other : j = i
    · rw [other, half_writeProtected mem, half_writeProtected mem, same]
    · rw [half_writeProtected_ne mem _ _ other, half_writeProtected_ne mem _ _ other]

/-- The later write of a register counts. -/
theorem writeProtected_writeProtected (r : Rtc) (a b : UInt32) :
    (r.writeProtected i a).writeProtected i b = r.writeProtected i b := by
  obtain ⟨regs, clock, div⟩ := r.writeProtected_frame i a
  obtain ⟨regs', clock', div'⟩ := r.writeProtected_frame i b
  obtain ⟨regs'', clock'', div''⟩ := (r.writeProtected i a).writeProtected_frame i b
  refine ext_halves (by rw [regs'', regs, regs']) (by rw [clock'', clock, clock'])
    (by rw [div'', div, div']) fun j _ => ?_
  by_cases other : j = i
  · rw [other, half_writeProtected mem, half_writeProtected mem]
  · simp only [half_writeProtected_ne mem _ _ other]

end

-- ---------------------------------------------------------------------------
-- A write of some lanes
-- ---------------------------------------------------------------------------

structure LaneWrite where
  register : Nat
  offset : UInt64
  size : AccessSize
  payload : UInt64
  half : register ∈ halves
  word : Peripheral.wordOffset offset = 4 * UInt64.ofNat register
  inside : offset.toNat % 4 + size.bytes ≤ 4

namespace LaneWrite

def first (w : LaneWrite) : Nat := 8 * (w.offset.toNat % 4)

def covers (w : LaneWrite) (b : Nat) : Bool :=
  decide (w.first ≤ b ∧ b < w.first + 8 * w.size.bytes)

def bit (w : LaneWrite) (b : Nat) : Bool := w.payload.toBitVec.getLsbD (b - w.first)

end LaneWrite

def writeLanes (r : Rtc) (w : LaneWrite) : Rtc :=
  (Peripheral.access r w.offset w.size .write w.payload).2

/-- The word that the write hook gets. -/
def merged (r : Rtc) (w : LaneWrite) : UInt32 :=
  (r.regs.get w.register &&& ~~~Peripheral.laneMask w.offset w.size.bytes) |||
    ((w.payload.toUInt32 <<< Peripheral.laneShift w.offset) &&&
      Peripheral.laneMask w.offset w.size.bytes)

theorem layout_halves : ∀ i ∈ halves, layout.indexOf? (4 * UInt64.ofNat i) = some i ∧
    i ≠ crl ∧ i ≠ crh ∧ (layout[i]?).map Register.onWrite = some .replace := by
  decide

section
variable {r : Rtc} (configuring : r.configuring = true)
include configuring

theorem commit_half {i : Nat} (mem : i ∈ halves) (word : UInt32) :
    r.commit i word = r.writeProtected i word := by
  obtain ⟨-, status, control, -⟩ := layout_halves i mem
  rw [commit, if_neg status, if_neg control, if_pos configuring]

theorem writeLanes_eq (w : LaneWrite) :
    r.writeLanes w = r.writeProtected w.register (r.merged w) := by
  obtain ⟨found, -, -, action⟩ := layout_halves w.register w.half
  obtain ⟨register, there, replace⟩ := Option.map_eq_some_iff.1 action
  have inside : (w.offset % 4).toNat + w.size.bytes ≤ 4 := by
    rw [UInt64.toNat_mod]
    exact w.inside
  rw [writeLanes, Peripheral.access_write_inside inside (w.word ▸ found) there]
  rw [Register.mergeLanes, Register.fill, replace]
  exact commit_half configuring w.half _

end

theorem getLsbD_merged (r : Rtc) (w : LaneWrite) {b : Nat} (inside : b < 32) :
    (r.merged w).toBitVec.getLsbD b =
      if w.covers b then w.bit b else (r.regs.get w.register).toBitVec.getLsbD b := by
  have mask : (Peripheral.laneMask w.offset w.size.bytes).toBitVec.getLsbD b = w.covers b :=
    Peripheral.getLsbD_laneMask w.offset w.size.bytes_pos w.inside inside
  rw [merged, UInt32.toBitVec_or, UInt32.toBitVec_and, UInt32.toBitVec_and, UInt32.toBitVec_not,
    BitVec.getLsbD_or, BitVec.getLsbD_and, BitVec.getLsbD_and, BitVec.getLsbD_not, mask,
    Peripheral.getLsbD_lanes _ _ inside]
  cases covered : w.covers b with
  | true =>
    have reached : w.first ≤ b := (of_decide_eq_true covered).1
    simp only [LaneWrite.first] at reached
    simp [LaneWrite.bit, LaneWrite.first, reached]
  | false => simp [inside]

-- ---------------------------------------------------------------------------
-- Runs
-- ---------------------------------------------------------------------------

inductive Action where
  | access (offset : UInt64) (size : AccessSize) (direction : Direction) (payload : UInt64)
  | advance (nanos : Nat)
deriving DecidableEq

def act (r : Rtc) : Action → Rtc
  | .access offset size direction payload => (Peripheral.access r offset size direction payload).2
  | .advance nanos => (r.advance nanos).1

def after (r : Rtc) (actions : List Action) : Rtc := actions.foldl act r

def writingByte (i : Nat) (value : UInt64) (k : Nat) : Action :=
  .access (4 * UInt64.ofNat i + UInt64.ofNat k) .byte .write (value >>> UInt64.ofNat (8 * k))

def writingWord (i : Nat) (value : UInt64) : Action :=
  .access (4 * UInt64.ofNat i) .word .write value

def BankClear (r : Rtc) : Prop := ∀ i ∈ halves, r.regs.get i = 0

theorem kept_bankClear : Peripheral.Kept BankClear where
  fetch _ _ h := h
  settle r i h := by
    rw [Peripheral.settle_of_keep (by decide : ∀ r ∈ layout, r.onRead = .keep) i]
    exact h
  commit r i word h j mem := by
    obtain ⟨-, status, control, -⟩ := layout_halves j mem
    show (r.commit i word).regs.get j = 0
    unfold commit
    split
    · exact (RegisterFile.get_set_ne _ (Ne.symm status) _).trans (h j mem)
    · split
      · exact (RegisterFile.get_set_ne _ (Ne.symm control) _).trans (h j mem)
      · split
        · rw [(r.writeProtected_frame i word).1, h j mem]
        · exact h j mem

/-- Time sets flags in `CRL` only. -/
theorem get_advance_ne (r : Rtc) (nanos : Nat) {i : Nat} (other : i ≠ crl) :
    (r.advance nanos).1.regs.get i = r.regs.get i := by
  simp only [advance]
  split
  · rfl
  · simp only [run]
    split
    · rfl
    · exact RegisterFile.get_set_ne _ (Ne.symm other) _

theorem bankClear_after (hz : UInt64) (actions : List Action) :
    BankClear ((withClock hz).after actions) := by
  have start : BankClear (withClock hz) := by
    show ∀ i ∈ halves, (RegisterFile.reset layout).get i = 0
    decide
  refine List.foldlRecOn actions act start fun r h action _ => ?_
  cases action with
  | access offset size direction payload =>
    exact kept_bankClear.access h offset size direction payload
  | advance nanos =>
    intro i mem
    exact (r.get_advance_ne nanos (layout_halves i mem).2.1).trans (h i mem)

-- ---------------------------------------------------------------------------
-- The contract
-- ---------------------------------------------------------------------------

/-- Written lanes are taken and the other bits of the half keep their values. -/
def KeepsLanes (r : Rtc) (w : LaneWrite) : Prop :=
  ∀ b < width w.register, ((r.writeLanes w).half w.register).toBitVec.getLsbD b =
    if w.covers b then w.bit b else (r.half w.register).toBitVec.getLsbD b

structure LaneContract (r : Rtc) : Prop where
  /-- The written lanes are taken. The others come from the register bank. -/
  taken : ∀ (w : LaneWrite) (b : Nat),
    ((r.writeLanes w).half w.register).toBitVec.getLsbD b = (decide (b < width w.register) &&
      if w.covers b then w.bit b else (r.regs.get w.register).toBitVec.getLsbD b)
  others : ∀ w : LaneWrite, (r.writeLanes w).regs = r.regs ∧ (r.writeLanes w).clock = r.clock ∧
    (r.writeLanes w).div = r.div ∧
      ∀ i, i ≠ w.register → (r.writeLanes w).half i = r.half i
  /-- In every state from reset the bank holds 0 there, so what is not written is cleared. -/
  cleared : ∀ hz actions, r = (withClock hz).after actions → BankClear r
  keeps : ∀ w : LaneWrite, r.KeepsLanes w ↔ ∀ b < width w.register, w.covers b = false →
    (r.half w.register).toBitVec.getLsbD b = (r.regs.get w.register).toBitVec.getLsbD b
  bytewise : ∀ i ∈ halves, ∀ (value : UInt64) (last : Nat), last < 2 →
    (r.after [writingByte i value (1 - last), writingByte i value last] =
        r.after [writingWord i value] ↔
      ∀ b < width i, b / 8 ≠ last →
        value.toBitVec.getLsbD b = (r.regs.get i).toBitVec.getLsbD b)

theorem offset_byte : ∀ i ∈ halves, ∀ k < 2,
    Peripheral.wordOffset (4 * UInt64.ofNat i + UInt64.ofNat k) = 4 * UInt64.ofNat i ∧
      (4 * UInt64.ofNat i + UInt64.ofNat k).toNat % 4 = k ∧ 4 * UInt64.ofNat i % 4 = 0 := by
  decide

def LaneWrite.byte {i k : Nat} (mem : i ∈ halves) (small : k < 2) (value : UInt64) : LaneWrite where
  register := i
  offset := 4 * UInt64.ofNat i + UInt64.ofNat k
  size := .byte
  payload := value >>> UInt64.ofNat (8 * k)
  half := mem
  word := (offset_byte i mem k small).1
  inside := by
    have single : AccessSize.byte.bytes = 1 := rfl
    rw [(offset_byte i mem k small).2.1]
    omega

namespace LaneWrite

variable {i k : Nat} (mem : i ∈ halves) (small : k < 2) (value : UInt64)

theorem first_byte : (byte mem small value).first = 8 * k :=
  congrArg (8 * ·) (offset_byte i mem k small).2.1

theorem covers_byte (b : Nat) : (byte mem small value).covers b = decide (b / 8 = k) := by
  have single : (byte mem small value).size.bytes = 1 := rfl
  rw [covers, first_byte, single]
  grind

theorem bit_byte {b : Nat} (here : b / 8 = k) :
    (byte mem small value).bit b = value.toBitVec.getLsbD b := by
  have shift : 8 * k % 18446744073709551616 % 64 = 8 * k := by omega
  have back : 8 * k + (b - 8 * k) = b := by omega
  rw [bit, first_byte]
  simp [byte, shift, back]

end LaneWrite

section
variable {r : Rtc} (configuring : r.configuring = true)
include configuring

theorem half_writeLanes (w : LaneWrite) (b : Nat) :
    ((r.writeLanes w).half w.register).toBitVec.getLsbD b = (decide (b < width w.register) &&
      if w.covers b then w.bit b else (r.regs.get w.register).toBitVec.getLsbD b) := by
  rw [writeLanes_eq configuring, half_writeProtected w.half, UInt32.toBitVec_and,
    BitVec.getLsbD_and, getLsbD_used, Bool.and_comm]
  by_cases within : b < width w.register
  · have inside : b < 32 := by
      unfold width at within
      grind
    rw [getLsbD_merged r w inside]
  · simp [within]

theorem keepsLanes_iff (w : LaneWrite) :
    r.KeepsLanes w ↔ ∀ b < width w.register, w.covers b = false →
      (r.half w.register).toBitVec.getLsbD b = (r.regs.get w.register).toBitVec.getLsbD b := by
  constructor
  · intro keeps b within outside
    have kept := keeps b within
    rw [half_writeLanes configuring w, outside] at kept
    simpa [within] using kept.symm
  · intro agrees b within
    rw [half_writeLanes configuring w, decide_eq_true within, Bool.true_and]
    cases covered : w.covers b with
    | true => rfl
    | false => exact (agrees b within covered).symm

/-- The byte that is written last decides, and the bank fills in the other one. -/
theorem after_bytes {i : Nat} (mem : i ∈ halves) (value : UInt64) {k last : Nat} (small : k < 2)
    (small' : last < 2) :
    r.after [writingByte i value k, writingByte i value last] =
      r.writeProtected i (r.merged (.byte mem small' value)) := by
  have first : r.act (writingByte i value k) = r.writeProtected i _ :=
    writeLanes_eq configuring (.byte mem small value)
  generalize r.merged (.byte mem small value) = word at first
  have same := (r.writeProtected_frame i word).1
  have still : (r.writeProtected i word).configuring = true := by
    rwa [Rtc.configuring, same]
  have second : (r.writeProtected i word).act (writingByte i value last) = _ :=
    writeLanes_eq still (.byte mem small' value)
  show (r.act (writingByte i value k)).act (writingByte i value last) = _
  rw [first, second, merged, same]
  exact writeProtected_writeProtected mem r word _

theorem after_word {i : Nat} (mem : i ∈ halves) (value : UInt64) :
    r.after [writingWord i value] = r.writeProtected i value.toUInt32 := by
  have aligned := (offset_byte i mem 0 (by decide)).2.2
  obtain ⟨found, -, -, -⟩ := layout_halves i mem
  show (Peripheral.access r _ .word .write value).2 = _
  rw [Peripheral.access_write_word aligned, Peripheral.write]
  simp only [show Peripheral.layout r = layout from rfl, found]
  exact commit_half configuring mem _

theorem after_bytes_eq_word_iff {i : Nat} (mem : i ∈ halves) (value : UInt64) {last : Nat}
    (small : last < 2) :
    r.after [writingByte i value (1 - last), writingByte i value last] =
        r.after [writingWord i value] ↔
      ∀ b < width i, b / 8 ≠ last →
        value.toBitVec.getLsbD b = (r.regs.get i).toBitVec.getLsbD b := by
  rw [after_bytes configuring mem value (by omega) small, after_word configuring mem,
    writeProtected_eq_iff mem, and_used_eq_iff]
  refine forall₂_congr fun b within => ?_
  have inside : b < 16 := by
    unfold width at within
    grind
  have carried : value.toUInt32.toBitVec.getLsbD b = value.toBitVec.getLsbD b := by
    have below : b < 32 := by omega
    simp [below]
  rw [getLsbD_merged r _ (by omega), LaneWrite.covers_byte, carried]
  by_cases here : b / 8 = last
  · simp [here, LaneWrite.bit_byte mem small value here]
  · have bank : (LaneWrite.byte mem small value).register = i := rfl
    simp [here, bank, eq_comm]

/-- Whatever the bank and the halves hold. -/
theorem laneContract : LaneContract r where
  taken := half_writeLanes configuring
  others w := by
    rw [writeLanes_eq configuring]
    obtain ⟨regs, clock, div⟩ := r.writeProtected_frame w.register (r.merged w)
    exact ⟨regs, clock, div, fun i => half_writeProtected_ne w.half r _⟩
  cleared hz actions := by
    rintro rfl
    exact bankClear_after hz actions
  keeps := keepsLanes_iff configuring
  bytewise _ mem value _ := after_bytes_eq_word_iff configuring mem value

end

def setting : List Action :=
  [.access 0x04 .word .write cnf.toUInt64, writingWord cntl 0x1234]

theorem laneContract_setting :
    let r := (withClock defaultHz).after setting
    LaneContract r ∧ r.after [writingByte cntl 0x5600 0, writingByte cntl 0x5600 1] =
      r.after [writingWord cntl 0x5600] := by
  have contract := laneContract (r := (withClock defaultHz).after setting) (by decide +kernel)
  exact ⟨contract, (contract.bytewise cntl (by decide) 0x5600 1 (by decide)).2 (by decide +kernel)⟩

theorem not_keepsLanes_of_low_byte :
    let r := (withClock defaultHz).after setting
    let w : LaneWrite := .byte (by decide : cntl ∈ halves) (by decide : 0 < 2) 0x56
    r.configuring = true ∧ r.cnt = 0x1234 ∧ (r.writeLanes w).cnt = 0x56 ∧ ¬r.KeepsLanes w := by
  intro r w
  refine ⟨by decide +kernel, by decide +kernel, by decide +kernel, fun keeps => ?_⟩
  -- bit 12 of the counter lies in the other byte
  have kept := keeps 12 (by decide)
  revert kept
  decide +kernel

end BoardSim.Rtc
