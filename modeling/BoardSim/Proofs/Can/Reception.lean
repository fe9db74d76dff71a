import Mathlib.Order.Bounds.Basic
import BoardSim.Proofs.Can.Mode

/-!
# Reception of a CAN frame

Which message buffer takes a frame from the bus, and what the step that handles the frame leaves
behind. The buffer is chosen by what firmware and earlier frames left in the registers
(`chooseBuffer_cases`). After the step the registers are those before it but for the time stamp
and, if the frame has been stored, the four words and the flag of one buffer (`ReceptionContract`).
A running controller shows no status bit, so passing through reception leaves `MCR` alone as well
(`regs_enter`).
-/

namespace BoardSim.Can

-- ---------------------------------------------------------------------------
-- The parts of a CS word
-- ---------------------------------------------------------------------------

namespace Word

def fieldMask : UInt32 := 0x0F0F0000

def stampMask : UInt32 := 0xFFFF

def formatMask : UInt32 := ide ||| srr

theorem cs_and_fieldMask (code : UInt32) (dlc : UInt8) :
    cs code dlc &&& fieldMask = cs code dlc := by
  have fields : ∀ i (h : i < 32), (0x0F0F0000#32)[i] =
      (decide (24 ≤ i ∧ i < 28) || decide (16 ≤ i ∧ i < 20)) := by decide
  have nibble : ∀ i (h : i < 32), (15#32)[i] = true ↔ i < 4 := by decide
  apply UInt32.eq_of_toBitVec_eq
  ext i hi
  simp only [cs, fieldMask, UInt32.toBitVec_and, BitVec.getElem_and, Bool.and_eq_left_iff_imp]
  simp only [UInt32.toBitVec_ofNat, fields i hi]
  simp
  rintro (⟨above, -, inside⟩ | ⟨above, -, inside⟩)
  · rw [nibble _ (by omega)] at inside
    omega
  · rw [nibble _ (by omega)] at inside
    omega

theorem and_or_distrib (a b mask : UInt32) : (a ||| b) &&& mask = a &&& mask ||| b &&& mask := by
  apply UInt32.eq_of_toBitVec_eq
  simp only [UInt32.toBitVec_and, UInt32.toBitVec_or, BitVec.and_or_distrib_right]

/-- Code and length are read off the bits of `fieldMask`. -/
theorem codeOf_and_fieldMask (word : UInt32) : codeOf (word &&& fieldMask) = codeOf word := by
  unfold codeOf
  rw [UInt32.shiftRight_and, UInt32.and_assoc]
  rfl

theorem dlcOf_and_fieldMask (word : UInt32) : dlcOf (word &&& fieldMask) = dlcOf word := by
  unfold dlcOf
  rw [UInt32.shiftRight_and, UInt32.and_assoc]
  rfl

theorem toNat_dlcOf_cs (code : UInt32) (dlc : UInt8) :
    (dlcOf (cs code dlc)).toNat = dlc.toNat % 16 := by
  rw [dlcOf_cs, UInt8.toNat_and]
  exact Nat.and_two_pow_sub_one_eq_mod _ 4

end Word

namespace Controller

variable {c d : Controller} {frame : Frame} {rest : List Frame} {n : Nat} {overrun : Bool}

-- ---------------------------------------------------------------------------
-- The choice of a buffer
-- ---------------------------------------------------------------------------

/-- Buffer `n` is scanned, its code says that it receives, and its filter lets the frame in. -/
structure Admits (c : Controller) (frame : Frame) (n : Nat) : Prop where
  scanned : n ≤ min (c.regs.get mcr &&& Mcr.maxmb).toNat 31
  receives : c.code n = Code.rxEmpty ∨ c.code n = Code.rxFull ∨ c.code n = Code.rxOverrun
  format : anySet (c.regs.get (csWord n)) Word.ide = frame.extended
  identifier :
    (c.regs.get (idWord n) ^^^ Word.id frame) &&& (c.maskOf n &&& extendedIdMask) = 0

theorem mem_candidates : n ∈ c.candidates frame ↔ c.Admits frame n := by
  have within : n ∈ c.scanned ↔ n ≤ min (c.regs.get mcr &&& Mcr.maxmb).toNat 31 := by
    rw [mem_scanned, Nat.le_min]
    unfold bufferCount
    omega
  simp only [candidates, List.mem_filter, within, Code.receives, accepts, Bool.and_eq_true,
    Bool.or_eq_true, beq_iff_eq, or_assoc]
  constructor
  · rintro ⟨scanned, receives, format, identifier⟩
    exact ⟨scanned, receives, format, identifier⟩
  · rintro ⟨scanned, receives, format, identifier⟩
    exact ⟨scanned, receives, format, identifier⟩

/-- The lowest of the scanned buffers with a property comes first. -/
theorem find?_scanned (p : Nat → Bool) :
    c.scanned.find? p = some n ↔ IsLeast {m | m ∈ c.scanned ∧ p m = true} n := by
  rw [scanned, List.find?_range_eq_some]
  constructor
  · rintro ⟨found, inside, before⟩
    refine ⟨⟨inside, found⟩, fun m member => ?_⟩
    by_contra below
    have := before m (Nat.lt_of_not_le below)
    simp [member.2] at this
  · rintro ⟨⟨inside, found⟩, least⟩
    refine ⟨found, inside, fun m below => ?_⟩
    rw [Bool.not_eq_true']
    refine Bool.eq_false_iff.2 fun holds => ?_
    have within : m ∈ List.range _ :=
      List.mem_range.2 (Nat.lt_trans below (List.mem_range.1 inside))
    exact Nat.not_le_of_lt below (least ⟨within, holds⟩)

/-- What a scan for a frame comes to, and whether the frame overruns an unread one. -/
inductive Choice (c : Controller) (frame : Frame) : Option (Nat × Bool) → Prop where
  | empty {n : Nat} (least : IsLeast {m | c.Admits frame m ∧ c.code m = Code.rxEmpty} n) :
      Choice c frame (some (n, false))
  | occupied {n : Nat} (full : ∀ m, c.Admits frame m → c.code m ≠ Code.rxEmpty)
      (least : IsLeast {m | c.Admits frame m} n) : Choice c frame (some (n, true))
  | refused (unwanted : ∀ m, ¬c.Admits frame m) : Choice c frame none

theorem chooseBuffer_cases (c : Controller) (frame : Frame) :
    Choice c frame (c.chooseBuffer frame) := by
  have candidate (p : Nat → Bool) :
      {m | m ∈ c.scanned ∧ decide ((Code.receives (c.code m) && c.accepts m frame) = true ∧
        p m = true) = true} = {m | c.Admits frame m ∧ p m = true} := by
    ext m
    simp only [Set.mem_ofPred_eq, ← mem_candidates, candidates, List.mem_filter,
      decide_eq_true_eq, and_assoc]
  simp only [chooseBuffer]
  split
  · next n found =>
    rw [candidates, List.find?_filter, find?_scanned, candidate] at found
    exact .empty (by simpa using found)
  · next none =>
    have full : ∀ m, c.Admits frame m → c.code m ≠ Code.rxEmpty := by
      intro m admits
      simpa using List.find?_eq_none.1 none m (mem_candidates.2 admits)
    cases head : (c.candidates frame).head? with
    | none =>
      refine .refused fun m admits => ?_
      rw [List.head?_eq_none_iff] at head
      simpa [head] using mem_candidates.2 admits
    | some n =>
      refine .occupied full ?_
      rw [candidates, List.head?_filter, find?_scanned] at head
      simpa [← mem_candidates, candidates] using head

theorem Choice.eq_of_empty {choice : Option (Nat × Bool)} (h : Choice c frame choice)
    (least : IsLeast {m | c.Admits frame m ∧ c.code m = Code.rxEmpty} n) :
    choice = some (n, false) := by
  cases h with
  | empty found => rw [found.unique least]
  | occupied full _ => exact absurd least.1.2 (full n least.1.1)
  | refused unwanted => exact absurd least.1.1 (unwanted n)

theorem Choice.eq_of_full {choice : Option (Nat × Bool)} (h : Choice c frame choice)
    (full : ∀ m, c.Admits frame m → c.code m ≠ Code.rxEmpty)
    (least : IsLeast {m | c.Admits frame m} n) : choice = some (n, true) := by
  cases h with
  | empty found => exact absurd found.1.2 (full _ found.1.1)
  | occupied _ found => rw [found.unique least]
  | refused unwanted => exact absurd least.1 (unwanted n)

theorem Choice.eq_none {choice : Option (Nat × Bool)} (h : Choice c frame choice)
    (unwanted : ∀ m, ¬c.Admits frame m) : choice = none := by
  cases h with
  | empty found => exact absurd found.1.1 (unwanted _)
  | occupied _ found => exact absurd found.1 (unwanted _)
  | refused _ => rfl

theorem Choice.least (h : Choice c frame (some (n, false))) :
    IsLeast {m | c.Admits frame m ∧ c.code m = Code.rxEmpty} n := by
  cases h with
  | empty least => exact least

-- ---------------------------------------------------------------------------
-- The registers
-- ---------------------------------------------------------------------------

theorem and_not_of_and_eq_zero {word mask : UInt32} (clear : word &&& mask = 0) :
    word &&& ~~~mask = word := by
  rw [← UInt32.toBitVec_inj] at clear ⊢
  ext i hi
  have bit : (word.toBitVec[i] && mask.toBitVec[i]) = false := by
    simpa using congrArg (·[i]) clear
  cases held : word.toBitVec[i] with
  | false => simp [held]
  | true => simpa [held] using bit

/-- A mode that shows no status bit leaves every register as it is. -/
theorem regs_enter {mode : Mode} (unshown : Mcr.statusOf mode = 0)
    (clear : c.regs.get mcr &&& Mcr.status = 0) : (c.enter mode).regs = c.regs := by
  refine RegisterFile.ext_get fun i _ => ?_
  by_cases control : mcr = i
  · subst control
    refine (get_mcr_showMode _).trans ?_
    show (c.regs.get mcr &&& ~~~Mcr.status) ||| Mcr.statusOf mode = _
    rw [unshown, UInt32.or_zero, and_not_of_and_eq_zero clear]
  · exact RegisterFile.get_set_ne _ control _

theorem ModeShown.status_clear (h : ModeShown c) (idle : c.mode = .idle) :
    c.regs.get mcr &&& Mcr.status = 0 := by
  have ready : c.shows Mcr.notrdy = false := by simp [← Bool.not_eq_true, h.notReady, idle]
  have moving : c.shows Mcr.frzack = false := by simp [← Bool.not_eq_true, h.frozen, idle]
  have powered : c.shows Mcr.lpmack = false := by simp [← Bool.not_eq_true, h.lowPower, idle]
  have none : anySet (c.regs.get mcr) Mcr.status = false := by
    rw [Mcr.status, anySet_or_bits, anySet_or_bits]
    simp only [shows] at ready moving powered
    rw [ready, moving, powered]
    rfl
  simpa [anySet] using none

def bufferWords (n : Nat) : List Nat := [csWord n, idWord n, data0Word n, data1Word n]

theorem mem_bufferWords {i : Nat} : i ∈ bufferWords n ↔ 10 + 4 * n ≤ i ∧ i < 10 + 4 * n + 4 := by
  simp only [bufferWords, csWord, idWord, data0Word, data1Word, List.mem_cons, List.not_mem_nil,
    or_false]
  omega

theorem lt_of_mem_bufferWords {i : Nat} (h : i ∈ bufferWords n) : iflag1 < i := by
  have := mem_bufferWords.1 h
  unfold iflag1
  omega

theorem get_fillBuffer_ne (c : Controller) {i : Nat} (other : i ∉ bufferWords n) :
    (c.fillBuffer n overrun frame).regs.get i = c.regs.get i := by
  simp only [bufferWords, List.mem_cons, List.not_mem_nil, or_false, not_or] at other
  obtain ⟨cs, id, data0, data1⟩ := other
  unfold fillBuffer
  rw [RegisterFile.get_set_ne _ (Ne.symm data1), RegisterFile.get_set_ne _ (Ne.symm data0),
    RegisterFile.get_set_ne _ (Ne.symm id), RegisterFile.get_set_ne _ (Ne.symm cs)]

-- ---------------------------------------------------------------------------
-- A stored frame
-- ---------------------------------------------------------------------------

def formatOf (frame : Frame) : UInt32 := if frame.extended then Word.ide ||| Word.srr else 0

/-- What buffer `n` holds that took the frame with the code `code` at the time `stamp`. -/
structure Holds (file : RegisterFile layout) (n : Nat) (code : UInt32) (frame : Frame)
    (stamp : UInt32) : Prop where
  code : Word.codeOf (file.get (csWord n)) = code
  length : (Word.dlcOf (file.get (csWord n))).toNat = frame.dlc.toNat % 16
  extended : anySet (file.get (csWord n)) Word.ide = frame.extended
  substitute : anySet (file.get (csWord n)) Word.srr = frame.extended
  plain : anySet (file.get (csWord n)) Word.rtr = false
  stamp : file.get (csWord n) &&& Word.stampMask = stamp
  spare : file.get (csWord n) &&&
    ~~~(Word.fieldMask ||| Word.stampMask ||| Word.formatMask) = 0
  identifier : file.get (idWord n) = Word.id frame
  data : (file.get (data0Word n), file.get (data1Word n)) = Word.data frame.data

theorem Holds.congr {file other : RegisterFile layout} {code stamp : UInt32}
    (h : Holds file n code frame stamp) (cs : other.get (csWord n) = file.get (csWord n))
    (id : other.get (idWord n) = file.get (idWord n))
    (data0 : other.get (data0Word n) = file.get (data0Word n))
    (data1 : other.get (data1Word n) = file.get (data1Word n)) :
    Holds other n code frame stamp := by
  constructor
  · exact (congrArg Word.codeOf cs).trans h.code
  · exact (congrArg (fun word => (Word.dlcOf word).toNat) cs).trans h.length
  · exact (congrArg (anySet · Word.ide) cs).trans h.extended
  · exact (congrArg (anySet · Word.srr) cs).trans h.substitute
  · exact (congrArg (anySet · Word.rtr) cs).trans h.plain
  · exact (congrArg (· &&& Word.stampMask) cs).trans h.stamp
  · exact (congrArg (· &&& ~~~(Word.fieldMask ||| Word.stampMask ||| Word.formatMask)) cs).trans
      h.spare
  · exact id.trans h.identifier
  · exact (congrArg₂ Prod.mk data0 data1).trans h.data

section
variable {code stamp : UInt32} (narrow : stamp &&& Word.stampMask = stamp)
include narrow

/-- Each part of the word stays within its own bits, so a mask keeps a part or drops it. -/
theorem storedWord_and (code : UInt32) (frame : Frame) {mask fields time format : UInt32}
    (ofFields : Word.fieldMask &&& mask = fields) (ofTime : Word.stampMask &&& mask = time)
    (ofFormat : Word.formatMask &&& mask = format) :
    (Word.cs code frame.dlc ||| stamp ||| formatOf frame) &&& mask =
      Word.cs code frame.dlc &&& fields ||| stamp &&& time ||| formatOf frame &&& format := by
  have within : formatOf frame &&& Word.formatMask = formatOf frame := by
    unfold formatOf
    cases frame.extended <;> decide
  rw [Word.and_or_distrib, Word.and_or_distrib, ← ofFields, ← ofTime, ← ofFormat,
    ← UInt32.and_assoc, Word.cs_and_fieldMask, ← UInt32.and_assoc, narrow, ← UInt32.and_assoc,
    within]

theorem and_formatMask {bits : UInt32} (noField : Word.fieldMask &&& bits = 0)
    (noTime : Word.stampMask &&& bits = 0) (format : Word.formatMask &&& bits = bits) :
    (Word.cs code frame.dlc ||| stamp ||| formatOf frame) &&& bits = formatOf frame &&& bits := by
  rw [storedWord_and narrow code frame noField noTime format, UInt32.and_zero, UInt32.and_zero,
    UInt32.or_zero, UInt32.zero_or]

theorem holds_of_words (nibble : code &&& 0xF = code) {file : RegisterFile layout}
    (cs : file.get (csWord n) = Word.cs code frame.dlc ||| stamp ||| formatOf frame)
    (identifier : file.get (idWord n) = Word.id frame)
    (data : (file.get (data0Word n), file.get (data1Word n)) = Word.data frame.data) :
    Holds file n code frame stamp := by
  have fields : file.get (csWord n) &&& Word.fieldMask = Word.cs code frame.dlc := by
    rw [cs, storedWord_and narrow code frame
        (by decide : Word.fieldMask &&& Word.fieldMask = Word.fieldMask)
        (by decide : Word.stampMask &&& Word.fieldMask = 0)
        (by decide : Word.formatMask &&& Word.fieldMask = 0),
      Word.cs_and_fieldMask, UInt32.and_zero, UInt32.and_zero, UInt32.or_zero, UInt32.or_zero]
  refine ⟨?_, ?_, ?_, ?_, ?_, ?_, ?_, identifier, data⟩
  · rw [← Word.codeOf_and_fieldMask, fields, Word.codeOf_cs, nibble]
  · rw [← Word.dlcOf_and_fieldMask, fields, Word.toNat_dlcOf_cs]
  · rw [anySet, cs, and_formatMask narrow (by decide) (by decide) (by decide), formatOf]
    cases frame.extended <;> decide
  · rw [anySet, cs, and_formatMask narrow (by decide) (by decide) (by decide), formatOf]
    cases frame.extended <;> decide
  · rw [anySet, cs, storedWord_and narrow code frame
        (by decide : Word.fieldMask &&& Word.rtr = 0)
        (by decide : Word.stampMask &&& Word.rtr = 0)
        (by decide : Word.formatMask &&& Word.rtr = 0),
      UInt32.and_zero, UInt32.and_zero, UInt32.and_zero]
    rfl
  · rw [cs, storedWord_and narrow code frame
        (by decide : Word.fieldMask &&& Word.stampMask = 0)
        (by decide : Word.stampMask &&& Word.stampMask = Word.stampMask)
        (by decide : Word.formatMask &&& Word.stampMask = 0),
      narrow, UInt32.and_zero, UInt32.and_zero, UInt32.or_zero, UInt32.zero_or]
  · rw [cs, storedWord_and narrow code frame
        (by decide : Word.fieldMask &&&
          ~~~(Word.fieldMask ||| Word.stampMask ||| Word.formatMask) = 0)
        (by decide : Word.stampMask &&&
          ~~~(Word.fieldMask ||| Word.stampMask ||| Word.formatMask) = 0)
        (by decide : Word.formatMask &&&
          ~~~(Word.fieldMask ||| Word.stampMask ||| Word.formatMask) = 0),
      UInt32.and_zero, UInt32.and_zero, UInt32.and_zero]
    rfl

end

theorem holds_fillBuffer (c : Controller) (inside : n < bufferCount) (overrun : Bool)
    (frame : Frame) :
    Holds (c.fillBuffer n overrun frame).regs n
      (if overrun then Code.rxOverrun else Code.rxFull) frame c.stamp := by
  have word {k : Nat} (small : k < 4) : 10 + 4 * n + k < layout.length := by
    rw [length_layout]
    unfold bufferCount at inside
    omega
  refine holds_of_words ?_ ?_ ?_ ?_ ?_
  · rw [stamp, UInt32.and_assoc]
    rfl
  · cases overrun <;> decide
  · unfold fillBuffer
    rw [RegisterFile.get_set_ne _ (by simp), RegisterFile.get_set_ne _ (by simp),
      RegisterFile.get_set_ne _ (by simp), RegisterFile.get_set _ (csWord_lt inside)]
    rfl
  · unfold fillBuffer
    rw [RegisterFile.get_set_ne _ (by simp), RegisterFile.get_set_ne _ (by simp),
      RegisterFile.get_set _ (word (by decide))]
  · unfold fillBuffer
    rw [RegisterFile.get_set_ne _ (by simp), RegisterFile.get_set _ (word (by decide)),
      RegisterFile.get_set _ (word (by decide))]

-- ---------------------------------------------------------------------------
-- The step
-- ---------------------------------------------------------------------------

def storedFile (c : Controller) (n : Nat) (overrun : Bool) (frame : Frame) : RegisterFile layout :=
  (c.fillBuffer n overrun frame).regs.setBits iflag1 (1 <<< UInt32.ofNat n)

theorem get_storedFile_ne (c : Controller) {i : Nat} (noFlag : i ≠ iflag1)
    (other : i ∉ bufferWords n) : (c.storedFile n overrun frame).get i = c.regs.get i := by
  rw [storedFile, RegisterFile.setBits, RegisterFile.get_set_ne _ (Ne.symm noFlag),
    get_fillBuffer_ne c other]

theorem get_storedFile_control (c : Controller) {i : Nat} (control : i < iflag1) :
    (c.storedFile n overrun frame).get i = c.regs.get i :=
  get_storedFile_ne c (Nat.ne_of_lt control) fun mem =>
    Nat.lt_asymm control (lt_of_mem_bufferWords mem)

theorem get_storedFile_iflag1 (c : Controller) :
    (c.storedFile n overrun frame).get iflag1 =
      c.regs.get iflag1 ||| 1 <<< UInt32.ofNat n := by
  rw [storedFile, RegisterFile.get_setBits _ (by rw [length_layout]; decide),
    get_fillBuffer_ne c fun mem => Nat.lt_irrefl _ (lt_of_mem_bufferWords mem)]

theorem holds_storedFile (c : Controller) (inside : n < bufferCount) (overrun : Bool)
    (frame : Frame) :
    Holds (c.storedFile n overrun frame) n (if overrun then Code.rxOverrun else Code.rxFull) frame
      c.stamp := by
  have word {i : Nat} (mem : i ∈ bufferWords n) :
      (c.storedFile n overrun frame).get i = (c.fillBuffer n overrun frame).regs.get i :=
    RegisterFile.get_set_ne _ (Nat.ne_of_lt (lt_of_mem_bufferWords mem)) _
  refine (holds_fillBuffer c inside overrun frame).congr ?_ ?_ ?_ ?_ <;>
    exact word (by simp [bufferWords])

theorem receive_stored (chosen : c.chooseBuffer frame = some (n, overrun))
    (plain : frame.remote = false) :
    c.receive frame = (anySet (c.regs.get imask1) (1 <<< UInt32.ofNat n),
      { c with
        regs := c.storedFile n overrun frame
        trace := c.traced ⟨c.bus, .rx, frame, some (UInt8.ofNat n)⟩ }) := by
  have mask : (c.fillBuffer n overrun frame).regs.get imask1 = c.regs.get imask1 := by
    refine get_fillBuffer_ne c fun mem => ?_
    exact absurd (lt_of_mem_bufferWords mem) (by decide)
  simp only [receive, chosen, plain, record_eq, complete]
  rw [← mask]
  rfl

theorem receive_refused (c : Controller)
    (unstored : frame.remote = true ∨ c.chooseBuffer frame = none) :
    ∃ trace, c.receive frame = (false, { c with trace }) := by
  unfold receive
  split
  · exact ⟨_, congrArg (Prod.mk false) (record_eq c _ _ _)⟩
  · next chosen =>
    have remote : frame.remote = true := unstored.resolve_right (by simp [chosen])
    rw [if_pos remote]
    exact ⟨_, congrArg (Prod.mk false) (record_eq c _ _ _)⟩

/-- Handling a frame writes neither a control register below `IFLAG1` nor a queue. -/
theorem receive_control (c : Controller) (frame : Frame) :
    ∃ irq regs trace, c.receive frame = (irq, { c with regs, trace }) ∧
      ∀ i, i < iflag1 → regs.get i = c.regs.get i := by
  rcases chosen : c.chooseBuffer frame with _ | ⟨n, overrun⟩
  · obtain ⟨trace, refused⟩ := c.receive_refused (.inr chosen)
    exact ⟨false, c.regs, trace, refused, fun _ _ => rfl⟩
  · cases remote : frame.remote with
    | true =>
      obtain ⟨trace, refused⟩ := c.receive_refused (.inl remote)
      exact ⟨false, c.regs, trace, refused, fun _ _ => rfl⟩
    | false => exact ⟨_, _, _, receive_stored chosen remote, fun _ => c.get_storedFile_control⟩

/-- The controller that looks for a buffer: its clock has moved on and the frame has been taken. -/
def receiving (c : Controller) (nanos : Nat) (rest : List Frame) : Controller :=
  ({ c.ticked nanos with inbox := rest }).enter .rx

theorem alike_receiving (c : Controller) (nanos : Nat) (rest : List Frame) :
    Alike c (c.receiving nanos rest) := by
  obtain ⟨bus, config, word⟩ := (Alike.ticked c nanos).trans (Alike.enter _ .rx)
  exact ⟨bus, config, word⟩

section
variable (idle : c.mode = .idle)
include idle

theorem advance_of_arrived (arrived : c.inbox = frame :: rest) (nanos : Nat) :
    c.advance nanos = (((c.receiving nanos rest).receive frame).2.enter .idle,
      .line ((c.receiving nanos rest).receive frame).1) := by
  have waiting : (c.ticked nanos).inbox = frame :: rest := arrived
  rw [advance_eq, idle]
  simp only [exchange, waiting]
  rfl

variable (shown : ModeShown c)
include shown

theorem status_ticked (nanos : Nat) : (c.ticked nanos).regs.get mcr &&& Mcr.status = 0 :=
  (congrArg (· &&& Mcr.status) (c.get_mcr_ticked nanos)).trans (shown.status_clear idle)

theorem regs_receiving (nanos : Nat) (rest : List Frame) :
    (c.receiving nanos rest).regs = (c.ticked nanos).regs :=
  regs_enter rfl (status_ticked idle shown nanos)

end

theorem get_timer_ticked (c : Controller) (nanos : Nat) :
    (c.ticked nanos).regs.get timer =
      (((c.regs.get timer).toUInt64 + (c.clock.advance nanos).1) &&& 0xFFFF).toUInt32 :=
  RegisterFile.get_set _ (by rw [length_layout]; decide) _

theorem stamp_ticked (c : Controller) (nanos : Nat) :
    (c.ticked nanos).stamp = (c.ticked nanos).regs.get timer := by
  rw [stamp, get_timer_ticked]
  apply UInt32.eq_of_toBitVec_eq
  ext i hi
  simp

theorem get_ticked_ne (c : Controller) (nanos : Nat) {i : Nat} (other : i ≠ timer) :
    (c.ticked nanos).regs.get i = c.regs.get i :=
  RegisterFile.get_set_ne _ (Ne.symm other) _

structure Stores (c : Controller) (nanos : Nat) (frame : Frame) (n : Nat) (code : UInt32) :
    Prop where
  buffer : Holds (c.advance nanos).1.regs n code frame ((c.advance nanos).1.regs.get timer)
  flag : (c.advance nanos).1.regs.get iflag1 = c.regs.get iflag1 ||| 1 <<< UInt32.ofNat n
  others : ∀ i, i ≠ timer → i ≠ iflag1 → i ∉ bufferWords n →
    (c.advance nanos).1.regs.get i = c.regs.get i
  irq : (c.advance nanos).2 = .line (anySet (c.regs.get imask1) (1 <<< UInt32.ofNat n))

/-- What the step of `nanos` that finds `frame` on the bus, and `rest` behind it, does to a
running controller. -/
structure ReceptionContract (c : Controller) (nanos : Nat) (frame : Frame)
    (rest : List Frame) : Prop where
  empty : ∀ n, frame.remote = false →
    IsLeast {m | c.Admits frame m ∧ c.code m = Code.rxEmpty} n →
      Stores c nanos frame n Code.rxFull
  /-- Where none is empty the lowest that admits the frame is overrun. -/
  occupied : ∀ n, frame.remote = false →
    (∀ m, c.Admits frame m → c.code m ≠ Code.rxEmpty) → IsLeast {m | c.Admits frame m} n →
      Stores c nanos frame n Code.rxOverrun
  refused : frame.remote = true ∨ (∀ m, ¬c.Admits frame m) →
    (∀ i, i ≠ timer → (c.advance nanos).1.regs.get i = c.regs.get i) ∧
      (c.advance nanos).2 = .quiet
  handled : (c.advance nanos).1.inbox = rest ∧ (c.advance nanos).1.outbox = c.outbox ∧
    (c.advance nanos).1.mode = .idle ∧ (c.advance nanos).1.transitions = [.rx, .idle] ∧
      (c.advance nanos).1.clock = (c.clock.advance nanos).2 ∧
        (c.advance nanos).1.regs.get timer =
          (((c.regs.get timer).toUInt64 + (c.clock.advance nanos).1) &&& 0xFFFF).toUInt32

section
variable (idle : c.mode = .idle) (shown : ModeShown c) (arrived : c.inbox = frame :: rest)
include idle shown arrived

theorem stores_of_chosen (nanos : Nat) (chosen : c.chooseBuffer frame = some (n, overrun))
    (plain : frame.remote = false) :
    Stores c nanos frame n (if overrun then Code.rxOverrun else Code.rxFull) := by
  have inside := lt_of_chooseBuffer chosen
  have same := alike_receiving c nanos rest
  have start := regs_receiving idle shown nanos rest
  have step := advance_of_arrived idle arrived nanos
  rw [receive_stored ((same.chooseBuffer frame).trans chosen) plain] at step
  have file : (c.advance nanos).1.regs =
      (c.receiving nanos rest).storedFile n overrun frame := by
    rw [step]
    refine regs_enter rfl ?_
    show ((c.receiving nanos rest).storedFile n overrun frame).get mcr &&& Mcr.status = 0
    rw [get_storedFile_control _ (by decide), start, status_ticked idle shown]
  have time : (c.receiving nanos rest).stamp = (c.advance nanos).1.regs.get timer := by
    rw [file, get_storedFile_control _ (by decide), stamp, start]
    exact c.stamp_ticked nanos
  constructor
  · rw [← time, file]
    exact holds_storedFile _ inside overrun frame
  · rw [file, get_storedFile_iflag1, start, c.get_ticked_ne nanos (by decide)]
  · intro i noTimer noFlag other
    rw [file, get_storedFile_ne _ noFlag other, start, c.get_ticked_ne nanos noTimer]
  · rw [step, start, c.get_ticked_ne nanos (by decide)]

theorem advance_refused (nanos : Nat)
    (unstored : frame.remote = true ∨ c.chooseBuffer frame = none) :
    (∀ i, i ≠ timer → (c.advance nanos).1.regs.get i = c.regs.get i) ∧
      (c.advance nanos).2 = .quiet := by
  have same := alike_receiving c nanos rest
  have start := regs_receiving idle shown nanos rest
  have step := advance_of_arrived idle arrived nanos
  obtain ⟨trace, refused⟩ :=
    (c.receiving nanos rest).receive_refused
      (unstored.imp_right ((same.chooseBuffer frame).trans ·))
  rw [refused] at step
  refine ⟨fun i other => ?_, congrArg Prod.snd step⟩
  have file : (c.advance nanos).1.regs = (c.receiving nanos rest).regs := by
    rw [step]
    refine regs_enter rfl ?_
    show (c.receiving nanos rest).regs.get mcr &&& Mcr.status = 0
    rw [start, status_ticked idle shown]
  rw [file, start, c.get_ticked_ne nanos other]

theorem advance_handled (nanos : Nat) :
    (c.advance nanos).1.inbox = rest ∧ (c.advance nanos).1.outbox = c.outbox ∧
      (c.advance nanos).1.mode = .idle ∧ (c.advance nanos).1.transitions = [.rx, .idle] ∧
        (c.advance nanos).1.clock = (c.clock.advance nanos).2 ∧
          (c.advance nanos).1.regs.get timer =
            (((c.regs.get timer).toUInt64 + (c.clock.advance nanos).1) &&& 0xFFFF).toUInt32 := by
  obtain ⟨irq, regs, trace, received, control⟩ := (c.receiving nanos rest).receive_control frame
  rw [advance_of_arrived idle arrived nanos, received]
  refine ⟨rfl, rfl, rfl, rfl, rfl, ?_⟩
  rw [← get_timer_ticked, ← regs_receiving idle shown nanos rest, ← control timer (by decide)]
  exact RegisterFile.get_set_ne _ (by decide) _

theorem receptionContract (nanos : Nat) : ReceptionContract c nanos frame rest where
  empty _ plain least :=
    stores_of_chosen idle shown arrived nanos ((c.chooseBuffer_cases frame).eq_of_empty least) plain
  occupied _ plain full least :=
    stores_of_chosen idle shown arrived nanos
      ((c.chooseBuffer_cases frame).eq_of_full full least) plain
  refused unstored :=
    advance_refused idle shown arrived nanos
      (unstored.imp_right (c.chooseBuffer_cases frame).eq_none)
  handled := advance_handled idle shown arrived nanos

end

/-- Whatever firmware, the host and time have done before. -/
theorem reception_after (bus : UInt8) (tracing : Bool) (actions : List Action) {frame : Frame}
    {rest : List Frame} (idle : (({ bus, tracing } : Controller).after actions).mode = .idle)
    (arrived : (({ bus, tracing } : Controller).after actions).inbox = frame :: rest)
    (nanos : Nat) :
    ReceptionContract (({ bus, tracing } : Controller).after actions) nanos frame rest :=
  have shown := after_induction (modeShown_new bus tracing) (fun _ a h => h.act a) actions
  receptionContract idle shown arrived nanos

/-- Firmware enables the controller, opens buffer 0 for an identifier and unmasks it before a frame
with that identifier comes. -/
def listening : List Action :=
  [.access Offset.mcr .word .write 0x0F, .advance 0,
    .access (bufferOffset 0 + 4) .word .write (Word.id (.standard 0x123 [])).toUInt64,
    .access (bufferOffset 0) .word .write 0x04000000,
    .access Offset.imask1 .word .write 1, .inject (.standard 0x123 [1, 2])]

theorem reception_after_listening :
    let c := ({ bus := 0, tracing := false } : Controller).after listening
    c.chooseBuffer (.standard 0x123 [1, 2]) = some (0, false) ∧
      (c.advance 1000).1.code 0 = Code.rxFull ∧ (c.advance 1000).2 = .line true ∧
        ReceptionContract c 1000 (.standard 0x123 [1, 2]) [] :=
  ⟨by decide +kernel, by decide +kernel, by decide +kernel,
    reception_after 0 false listening (by decide +kernel) (by decide +kernel) 1000⟩

end Controller

end BoardSim.Can
