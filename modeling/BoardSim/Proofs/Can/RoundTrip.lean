import BoardSim.Proofs.Can.Transmission

/-!
# A frame between two controllers

Firmware lays a frame out in a message buffer, the controller reads it back and sends it, and
another controller lays it out once more when it takes it from the bus. For a data frame as it
comes off the wire the layouts undo each other, so the frame arrives as it was sent and goes back
unchanged once its buffer is armed again (`roundTrip`).
-/

namespace BoardSim.Can

/-- A data frame whose parts fit the wire. -/
structure Frame.WireNormal (f : Frame) : Prop where
  plain : f.remote = false
  short : f.dlc ≤ 8
  narrow : f.id ≤ if f.extended then extendedIdMask else standardIdMask

-- ---------------------------------------------------------------------------
-- The words of a frame to be sent
-- ---------------------------------------------------------------------------

namespace Word

theorem and_idMask {id : UInt32} :
    (id ≤ extendedIdMask → id &&& extendedIdMask = id) ∧
      (id ≤ standardIdMask → id &&& standardIdMask = id) := by
  refine ⟨fun narrow => ?_, fun narrow => ?_⟩
  all_goals
    apply UInt32.toNat_inj.1
    rw [UInt32.toNat_and]
  · exact (Nat.and_two_pow_sub_one_eq_mod _ 29).trans
      (Nat.mod_eq_of_lt (Nat.lt_succ_of_le (UInt32.le_iff_toNat_le.1 narrow)))
  · exact (Nat.and_two_pow_sub_one_eq_mod _ 11).trans
      (Nat.mod_eq_of_lt (Nat.lt_succ_of_le (UInt32.le_iff_toNat_le.1 narrow)))

/-- The place of a standard identifier gives it back. -/
theorem standardId_shiftRight {id : UInt32} (narrow : id ≤ standardIdMask) :
    (standardId id >>> 18) &&& standardIdMask = id := by
  have small : id.toNat < 0x800 := Nat.lt_succ_of_le (UInt32.le_iff_toNat_le.1 narrow)
  have back : id <<< 18 >>> 18 = id := by
    apply UInt32.toNat_inj.1
    simp only [UInt32.toNat_shiftRight, UInt32.toNat_shiftLeft, UInt32.reduceToNat, Nat.reduceMod]
    rw [Nat.shiftLeft_eq, Nat.shiftRight_eq_div_pow]
    omega
  rw [standardId, and_idMask.2 narrow, back, and_idMask.2 narrow]

theorem not_anySet_cs {bits : UInt32} (apart : fieldMask &&& bits = 0) (code : UInt32)
    (dlc : UInt8) : anySet (cs code dlc) bits = false := by
  rw [← cs_and_fieldMask, not_anySet_and apart]

end Word

def armedWord (dlc : UInt8) (extended : Bool) : UInt32 :=
  Word.cs Code.txData dlc ||| if extended then Word.ide else 0

def Frame.words (f : Frame) : Vector UInt32 4 :=
  #v[armedWord f.dlc f.extended, Word.id f, (Word.data f.data).1, (Word.data f.data).2]

namespace Controller

variable {c d : Controller} {frame : Frame} {n : Nat}

def storing (n k : Nat) (word : UInt32) : Action :=
  .access (bufferOffset (UInt64.ofNat n) + 4 * UInt64.ofNat k) .word .write word.toUInt64

def loading (n : Nat) (frame : Frame) : List Action :=
  (List.finRange 4).map fun k : Fin 4 => storing n k frame.words[k]

/-- Firmware arms a buffer that has received once more, with the length and the format that are
there. -/
def rearming (n : Nat) (box : Mailbox) : Action :=
  storing n 0 (armedWord box.dlc (anySet box.cs Word.ide))

-- ---------------------------------------------------------------------------
-- Firmware's writes
-- ---------------------------------------------------------------------------

theorem bufferWord_table : ∀ n < bufferCount, ∀ k < 4,
    let offset := bufferOffset (UInt64.ofNat n) + 4 * UInt64.ofNat k
    offset % 4 = 0 ∧ Layout.indexOf? layout offset = some (csWord n + k) ∧
      (layout[csWord n + k]?).map (fun r => (r.writable, r.onWrite)) =
        some (0xFFFFFFFF, .replace) := by
  decide +kernel

theorem act_storing (c : Controller) (inside : n < bufferCount) {k : Nat} (small : k < 4)
    (word : UInt32) :
    c.act (storing n k word) = { c with regs := c.regs.set (csWord n + k) word } := by
  obtain ⟨aligned, found, plain⟩ := bufferWord_table n inside k small
  have control : csWord n + k ≠ mcr := by
    unfold csWord mcr
    omega
  rw [storing, act, Peripheral.access_write_word aligned, UInt32.toUInt32_toUInt64,
    Peripheral.write]
  simp only [show Peripheral.layout c = layout from rfl, found]
  exact commit_of_plain control plain c word

def written (words : Vector UInt32 4) (n : Nat) (file : RegisterFile layout) (ks : List (Fin 4)) :
    RegisterFile layout :=
  ks.foldl (fun file (k : Fin 4) => file.set (csWord n + k) words[k]) file

theorem get_written_ne (words : Vector UInt32 4) (file : RegisterFile layout) {i : Nat}
    (other : i ∉ bufferWords n) (ks : List (Fin 4)) :
    (written words n file ks).get i = file.get i := by
  induction ks generalizing file with
  | nil => rfl
  | cons k rest ih =>
    have apart : csWord n + k ≠ i := by
      have := k.isLt
      rw [mem_bufferWords] at other
      unfold csWord
      omega
    exact (ih _).trans (RegisterFile.get_set_ne _ apart _)

theorem get_written (words : Vector UInt32 4) (file : RegisterFile layout)
    (inside : n < bufferCount) {ks : List (Fin 4)} {k : Fin 4}
    (there : k ∈ ks ∨ file.get (csWord n + k) = words[k]) :
    (written words n file ks).get (csWord n + k) = words[k] := by
  induction ks generalizing file with
  | nil => exact there.resolve_left List.not_mem_nil
  | cons l rest ih =>
    refine ih _ ?_
    by_cases same : l = k
    · have within : csWord n + k < layout.length := by
        rw [length_layout]
        unfold bufferCount at inside
        unfold csWord
        omega
      subst same
      exact .inr (RegisterFile.get_set _ within _)
    · have apart : csWord n + l.val ≠ csWord n + k.val := by
        have := Fin.val_ne_of_ne same
        omega
      refine there.imp (fun mem => (List.mem_cons.1 mem).resolve_left (Ne.symm same)) fun held => ?_
      exact (RegisterFile.get_set_ne _ apart _).trans held

/-- The order of the writes does not matter. -/
theorem after_writes (c : Controller) (inside : n < bufferCount) {writes : List Action}
    (perm : writes.Perm (loading n frame)) :
    c.after writes = { c with regs := written frame.words n c.regs (List.finRange 4) } := by
  have ordered : c.after writes = c.after (loading n frame) := by
    refine perm.foldl_eq' (fun x hx y hy d => ?_) c
    obtain ⟨k, -, rfl⟩ := List.mem_map.1 (perm.subset hx)
    obtain ⟨l, -, rfl⟩ := List.mem_map.1 (perm.subset hy)
    by_cases same : k = l
    · rw [same]
    · have apart : csWord n + k.val ≠ csWord n + l.val := by
        have := Fin.val_ne_of_ne same
        omega
      simp only [act_storing _ inside k.isLt, act_storing _ inside l.isLt]
      rw [RegisterFile.set_comm _ apart]
  have folded (ks : List (Fin 4)) (c : Controller) :
      c.after (ks.map fun k : Fin 4 => storing n k frame.words[k]) =
        { c with regs := written frame.words n c.regs ks } := by
    induction ks generalizing c with
    | nil => rfl
    | cons k rest ih =>
      rw [List.map_cons, after_cons, act_storing c inside k.isLt, ih]
      rfl
  rw [ordered, loading, folded]

-- ---------------------------------------------------------------------------
-- A loaded buffer
-- ---------------------------------------------------------------------------

theorem codeOf_armedWord (dlc : UInt8) (extended : Bool) :
    Word.codeOf (armedWord dlc extended) = Code.txData := by
  rw [armedWord, codeOf_or, Word.codeOf_cs]
  cases extended <;> rfl

theorem dlcOf_armedWord {dlc : UInt8} (short : dlc ≤ 8) (extended : Bool) :
    Word.dlcOf (armedWord dlc extended) = dlc := by
  have fields : armedWord dlc extended &&& Word.fieldMask = Word.cs Code.txData dlc := by
    rw [armedWord, Word.and_or_distrib, Word.cs_and_fieldMask]
    cases extended <;> exact UInt32.or_zero
  apply UInt8.toNat_inj.1
  rw [← Word.dlcOf_and_fieldMask, fields, Word.toNat_dlcOf_cs]
  exact Nat.mod_eq_of_lt (Nat.lt_of_le_of_lt (UInt8.le_iff_toNat_le.1 short) (by decide))

theorem anySet_armedWord (dlc : UInt8) (extended : Bool) :
    anySet (armedWord dlc extended) Word.ide = extended ∧
      anySet (armedWord dlc extended) Word.rtr = false := by
  constructor <;> rw [armedWord, anySet_or, Word.not_anySet_cs (by decide)] <;>
    cases extended <;> rfl

structure Loaded (c : Controller) (n : Nat) (frame : Frame) : Prop where
  mode : c.mode = .idle
  inbox : c.inbox = []
  scanned : n ≤ min (c.regs.get mcr &&& Mcr.maxmb).toNat 31
  word : ∀ k : Fin 4, c.regs.get (csWord n + k) = frame.words[k]

/-- The words of a frame are read back as the frame. -/
theorem Loaded.frameOf_eq (h : Loaded c n frame) (normal : frame.WireNormal) :
    c.frameOf n = frame := by
  have cs : c.regs.get (csWord n) = armedWord frame.dlc frame.extended := h.word 0
  have id : c.regs.get (idWord n) = Word.id frame := h.word 1
  have data0 : c.regs.get (data0Word n) = (Word.data frame.data).1 := h.word 2
  have data1 : c.regs.get (data1Word n) = (Word.data frame.data).2 := h.word 3
  obtain ⟨extended, plain⟩ := anySet_armedWord frame.dlc frame.extended
  have short : min frame.dlc 8 = frame.dlc := if_pos normal.short
  simp only [Controller.frameOf, Controller.data, cs, id, data0, data1, codeOf_armedWord, extended,
    plain, dlcOf_armedWord normal.short, short, Word.bytes_data]
  have remote := normal.plain
  have narrow := normal.narrow
  obtain ⟨number, format, request, dlc, bytes⟩ := frame
  obtain rfl : request = false := remote
  cases format with
  | true =>
    have wide := Word.and_idMask.1 narrow
    simp only [if_true, Word.id, wide]
    rfl
  | false =>
    have back := Word.standardId_shiftRight narrow
    simp only [Bool.false_eq_true, if_false, Word.id, back]
    rfl

theorem Loaded.waiting (h : Loaded c n frame) (normal : frame.WireNormal) : Waiting c n frame where
  mode := h.mode
  inbox := h.inbox
  scanned := by
    have within := Nat.le_min.1 h.scanned
    exact mem_scanned.2 ⟨within.1, Nat.lt_succ_of_le within.2⟩
  armed := by
    have cs : c.regs.get (csWord n) = armedWord frame.dlc frame.extended := h.word 0
    rw [armedIn, cs, codeOf_armedWord]
    rfl
  holds := h.frameOf_eq normal

section
variable (idle : c.mode = .idle) (empty : c.inbox = [])
  (scanned : n ≤ min (c.regs.get mcr &&& Mcr.maxmb).toNat 31)
include idle empty scanned

theorem loaded_after {writes : List Action} (perm : writes.Perm (loading n frame)) :
    Loaded (c.after writes) n frame ∧ (c.after writes).ahead n = c.ahead n ∧
      (c.after writes).outbox = c.outbox := by
  have inside : n < bufferCount := Nat.lt_succ_of_le (Nat.le_min.1 scanned).2
  rw [after_writes c inside perm]
  refine ⟨⟨idle, empty, ?_, fun k => get_written _ _ inside (.inl (List.mem_finRange k))⟩, ?_, rfl⟩
  · have control : mcr ∉ bufferWords n := fun mem =>
      absurd (lt_of_mem_bufferWords mem) (by decide)
    show n ≤ min ((written frame.words n c.regs (List.finRange 4)).get mcr &&& Mcr.maxmb).toNat 31
    rwa [get_written_ne _ _ control]
  · ext m
    rw [mem_ahead, mem_ahead]
    refine and_congr_right fun below => ?_
    have other : csWord m ∉ bufferWords n := by
      rw [mem_bufferWords]
      unfold csWord
      omega
    rw [armedIn, armedIn, get_written_ne _ _ other]

end

-- ---------------------------------------------------------------------------
-- A buffer that has received
-- ---------------------------------------------------------------------------

theorem Holds.words {file : RegisterFile layout} {code stamp : UInt32}
    (h : Holds file n code frame stamp) :
    file.get (data0Word n) = (Word.data frame.data).1 ∧
      file.get (data1Word n) = (Word.data frame.data).2 := by
  have words := Prod.ext_iff.1 h.data
  dsimp only at words
  exact words

structure Received (c : Controller) (n : Nat) (frame : Frame) : Prop where
  mode : c.mode = .idle
  inbox : c.inbox = []
  scanned : n ≤ min (c.regs.get mcr &&& Mcr.maxmb).toNat 31
  buffer : ∃ stamp, Holds c.regs n Code.rxFull frame stamp

theorem inbox_enter (c : Controller) (mode : Mode) : (c.enter mode).inbox = c.inbox := rfl

theorem received_of_injected (idle : c.mode = .idle) (empty : c.inbox = [])
    (plain : frame.remote = false)
    (least : IsLeast {m | c.Admits frame m ∧ c.code m = Code.rxEmpty} n) (nanos : Nat) :
    Received ((c.inject frame).advance nanos).1 n frame := by
  have arrived : (c.inject frame).inbox = [frame] := congrArg (· ++ [frame]) empty
  have same := alike_receiving (c.inject frame) nanos []
  have chosen : (c.inject frame).chooseBuffer frame = some (n, false) :=
    (c.chooseBuffer_cases frame).eq_of_empty least
  have step := congrArg Prod.fst (advance_of_arrived (c := c.inject frame) idle arrived nanos)
  rw [receive_stored ((same.chooseBuffer frame).trans chosen) plain] at step
  dsimp only at step
  have waiting : ((c.inject frame).receiving nanos []).inbox = [] := rfl
  have inside := lt_of_chooseBuffer chosen
  generalize (c.inject frame).receiving nanos [] = start at same step waiting
  have left := Alike.enter { start with
    regs := start.storedFile n false frame
    trace := start.traced ⟨start.bus, .rx, frame, some (UInt8.ofNat n)⟩ } .idle
  rw [← step] at left
  have config : ((c.inject frame).advance nanos).1.regs.get mcr &&& ~~~Mcr.status =
      c.regs.get mcr &&& ~~~Mcr.status := by
    refine left.config.trans (Eq.trans ?_ same.config)
    exact congrArg (· &&& ~~~Mcr.status) (start.get_storedFile_control (by decide))
  refine ⟨by rw [step]; rfl, ?_, ?_, start.stamp, ?_⟩
  · rw [step, inbox_enter, waiting]
  · rw [and_eq_of_config config (by decide)]
    exact least.1.1.scanned
  · exact (start.holds_storedFile inside false frame).congr (left.csWord n) (left.idWord n)
      (left.word _ (timer_lt n 2)) (left.word _ (timer_lt n 3))

theorem Received.mailbox (h : Received c n frame) (normal : frame.WireNormal) :
    ∃ box, c.mailbox? n = some box ∧ box.code = Code.rxFull ∧ box.id = Word.id frame ∧
      anySet box.cs Word.ide = frame.extended ∧ box.dlc = frame.dlc ∧ box.data = frame.data := by
  obtain ⟨stamp, holds⟩ := h.buffer
  have inside : n < bufferCount := Nat.lt_succ_of_le (Nat.le_min.1 h.scanned).2
  refine ⟨_, if_pos inside, ?_⟩
  dsimp only
  refine ⟨holds.code, holds.identifier, holds.extended, ?_, ?_⟩
  · apply UInt8.toNat_inj.1
    refine holds.length.trans (Nat.mod_eq_of_lt ?_)
    exact Nat.lt_of_le_of_lt (UInt8.le_iff_toNat_le.1 normal.short) (by decide)
  · obtain ⟨data0, data1⟩ := holds.words
    rw [Controller.data, data0, data1, Word.bytes_data]

/-- Only the CS word is missing for the frame to be sent back. -/
theorem Received.rearmed (h : Received c n frame) :
    Loaded (c.act (storing n 0 (armedWord frame.dlc frame.extended))) n frame := by
  obtain ⟨stamp, holds⟩ := h.buffer
  have inside : n < bufferCount := Nat.lt_succ_of_le (Nat.le_min.1 h.scanned).2
  have other {i : Nat} (apart : csWord n ≠ i) :
      (c.regs.set (csWord n) (armedWord frame.dlc frame.extended)).get i = c.regs.get i :=
    RegisterFile.get_set_ne _ apart _
  rw [act_storing c inside (by decide)]
  refine ⟨h.mode, h.inbox, ?_, fun k => ?_⟩
  · have control : csWord n ≠ mcr := by
      unfold csWord mcr
      omega
    show n ≤ min ((c.regs.set (csWord n) _).get mcr &&& Mcr.maxmb).toNat 31
    rw [other control]
    exact h.scanned
  · obtain ⟨data0, data1⟩ := holds.words
    match k with
    | 0 => exact RegisterFile.get_set _ (csWord_lt inside) _
    | 1 => exact (other (by simp)).trans holds.identifier
    | 2 => exact (other (by simp)).trans data0
    | 3 => exact (other (by simp)).trans data1

-- ---------------------------------------------------------------------------
-- There and back
-- ---------------------------------------------------------------------------

structure RoundTrip (frame : Frame) : Prop where
  sent : ∀ (a : Controller) (n nanos : Nat) (writes : List Action), a.mode = .idle → a.inbox = [] →
    n ≤ min (a.regs.get mcr &&& Mcr.maxmb).toNat 31 →
    (∀ m < n, Code.armed (a.code m) = false) → writes.Perm (loading n frame) →
      ((a.after writes).advance nanos).1.outbox = a.outbox ++ [frame]
  /-- The step that takes the frame leaves it in the buffer that is chosen for it, and once firmware
  has armed that buffer the frame goes back as soon as no lower buffer is armed. -/
  returned : ∀ (b : Controller) (n nanos : Nat), b.mode = .idle → b.inbox = [] →
    IsLeast {m | b.Admits frame m ∧ b.code m = Code.rxEmpty} n →
      ∃ box, ((b.inject frame).advance nanos).1.mailbox? n = some box ∧
        box.id = Word.id frame ∧ anySet box.cs Word.ide = frame.extended ∧
        box.dlc = frame.dlc ∧ box.data = frame.data ∧
        ∀ (steps : List Nat) (last : Nat),
          let d := ((b.inject frame).advance nanos).1.act (rearming n box)
          let e := d.after (steps.map .advance)
          steps.length = (d.ahead n).card →
            (e.advance last).1.outbox = e.outbox ++ [frame] ∧
              e.outbox.length = d.outbox.length + steps.length

theorem roundTrip (frame : Frame) (normal : frame.WireNormal) : RoundTrip frame := by
  constructor
  · intro a n nanos writes idle empty scanned lowest perm
    obtain ⟨loaded, ahead, outbox⟩ := loaded_after idle empty scanned perm
    have none : a.ahead n = ∅ := by
      refine Finset.eq_empty_of_forall_notMem fun m mem => ?_
      obtain ⟨below, armed⟩ := mem_ahead.1 mem
      exact Bool.false_ne_true ((lowest m below).symm.trans armed)
    have departed := (loaded.waiting normal).departed (ahead.trans none) nanos
    rw [departed.outbox, outbox, loaded.frameOf_eq normal]
  · intro b n nanos idle empty least
    have received := received_of_injected idle empty normal.plain least nanos
    obtain ⟨box, there, -, identifier, extended, dlc, data⟩ := received.mailbox normal
    refine ⟨box, there, identifier, extended, dlc, data, ?_⟩
    intro steps last d e enough
    have loaded : Loaded d n frame := by
      show Loaded (Controller.act _ (storing n 0 (armedWord box.dlc _))) n frame
      rw [dlc, extended]
      exact received.rearmed
    obtain ⟨waiting, none, sent⟩ := (loaded.waiting normal).turn steps enough
    refine ⟨(waiting.departed none last).outbox.trans ?_, sent⟩
    exact congrArg (e.outbox ++ [·]) waiting.holds

/-- Firmware runs a controller whose buffer 2 takes any frame with a 29-bit identifier, and has a
frame of its own to send from buffer 0. -/
def answering : List Action :=
  [.access Offset.mcr .word .write 0x0F, .advance 0,
    .access Offset.globalMask .word .write 0,
    .access (bufferOffset 2) .word .write (Word.cs Code.rxEmpty 0 ||| Word.ide).toUInt64,
    .access (bufferOffset 0) .word .write (armedWord 0 false).toUInt64]

/-- The frame goes back behind the one that the second controller has waiting. -/
theorem roundTrip_extended :
    let frame : Frame := .extendedData 0x18DAF110 [1, 2, 3]
    let a := ({ bus := 0 } : Controller).after [.access Offset.mcr .word .write 0x0F, .advance 0]
    let b := ({ bus := 1 } : Controller).after answering
    ((a.after (loading 3 frame).reverse).advance 1000).1.outbox = [frame] ∧
      ∃ box, ((b.inject frame).advance 1000).1.mailbox? 2 = some box ∧ box.data = frame.data ∧
        let d := ((b.inject frame).advance 1000).1.act (rearming 2 box)
        ((d.after [.advance 1000]).advance 1000).1.outbox = [.standard 0 [], frame] := by
  intro frame a b
  have trip := roundTrip frame ⟨rfl, by decide, by decide⟩
  have lowest : ∀ m < 3, Code.armed (a.code m) = false := by decide +kernel
  have sent := trip.sent a 3 1000 _ (by decide +kernel) (by decide +kernel) (by decide +kernel)
    lowest (List.reverse_perm _)
  have chosen : b.chooseBuffer frame = some (2, false) := by decide +kernel
  have least := (chosen ▸ b.chooseBuffer_cases frame).least
  obtain ⟨box, there, -, extended, dlc, data, back⟩ :=
    trip.returned b 2 1000 (by decide +kernel) (by decide +kernel) least
  refine ⟨sent.trans (by decide +kernel), box, there, data, ?_⟩
  intro d
  have same : rearming 2 box = storing 2 0 (armedWord 3 true) := by
    rw [rearming, extended, dlc]
    rfl
  have queued : (d.ahead 2).card = 1 := by
    show (Controller.ahead (Controller.act _ (rearming 2 box)) 2).card = 1
    rw [same]
    decide +kernel
  have answered := (back [1000] 1000 queued.symm).1
  simp only [List.map_cons, List.map_nil] at answered
  rw [answered, same]
  decide +kernel

end Controller

end BoardSim.Can
