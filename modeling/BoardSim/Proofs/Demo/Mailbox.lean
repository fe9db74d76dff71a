import BoardSim.Proofs.Can.Run
import BoardSim.Proofs.Demo.Pipeline

/-!
# The message buffers of the demo

Firmware sets one buffer up for setpoints and one for samples and leaves the others alone. `Mail`
says what the registers of the controller then hold between any two of its steps and firmware's
writes. A frame from the bus can only reach the receiving buffer, and nothing but a sample is sent.
-/

namespace BoardSim.Demo

open Can Can.Controller

def sampleFrame (level : UInt16) : Frame :=
  .standard sampleId [(level >>> 8).toUInt8, level.toUInt8]

/-- The registers as firmware set them up. `armed` tells whether a sample of `level` waits to be
sent, `flags` what the handler has not seen. -/
structure Mail (regs : RegisterFile Can.Controller.layout) (level : UInt16) (armed : Bool)
    (flags : UInt32) : Prop where
  /-- Sixteen buffers share the masks, and neither freeze nor sleep is asked for. -/
  config : regs.get mcr &&& ~~~Mcr.status = 0x0F
  filter : regs.get globalMask = Word.standardId 0x7FF
  unmasked : regs.get imask1 = rxFlag ||| txFlag
  pending : regs.get iflag1 = flags
  wanted : regs.get (idWord rxBuffer) = Word.standardId setpointId
  empty : anySet flags rxFlag = false → regs.get (csWord rxBuffer) = Word.cs Code.rxEmpty 0
  unused : ∀ n < 16, n ≠ rxBuffer → n ≠ txBuffer →
    Word.codeOf (regs.get (csWord n)) = Code.rxInactive
  zeros : regs.get (data1Word txBuffer) = 0
  vacant : armed = false → Word.codeOf (regs.get (csWord txBuffer)) = Code.txInactive
  outgoing : armed = true → regs.get (csWord txBuffer) = Word.cs Code.txData 2 ∧
    regs.get (idWord txBuffer) = Word.standardId sampleId ∧
    regs.get (data0Word txBuffer) = level.toUInt32 <<< 16

def mailWords : List Nat :=
  [iflag1, csWord rxBuffer, idWord rxBuffer, data0Word rxBuffer, data1Word rxBuffer,
    csWord txBuffer, idWord txBuffer, data0Word txBuffer]

def SameElsewhere (before after : RegisterFile Can.Controller.layout) : Prop :=
  ∀ i, i ∉ mailWords → after.get i = before.get i

theorem SameElsewhere.set {before after : RegisterFile Can.Controller.layout}
    (h : SameElsewhere before after) {i : Nat} (changing : i ∈ mailWords) (word : UInt32) :
    SameElsewhere before (after.set i word) := by
  intro j other
  have distinct : i ≠ j := fun same => other (same ▸ changing)
  rw [RegisterFile.get_set_ne _ distinct, h j other]

theorem get_set_lt (regs : RegisterFile Can.Controller.layout) {i : Nat} (inside : i < 170)
    (word : UInt32) : (regs.set i word).get i = word :=
  regs.get_set (by rwa [length_layout]) word

namespace Mail

variable {c d : Can.Controller} {regs : RegisterFile Can.Controller.layout} {level : UInt16}
  {armed : Bool} {flags : UInt32}

theorem of_alike (same : Alike c d) (h : Mail c.regs level armed flags) :
    Mail d.regs level armed flags where
  config := same.config.trans h.config
  filter := (same.word _ (by decide)).trans h.filter
  unmasked := (same.word _ (by decide)).trans h.unmasked
  pending := (same.word _ (by decide)).trans h.pending
  wanted := (same.idWord _).trans h.wanted
  empty clear := (same.csWord _).trans (h.empty clear)
  unused n inside notRx notTx := by
    rw [same.csWord]
    exact h.unused n inside notRx notTx
  zeros := (same.word _ (by decide)).trans h.zeros
  vacant idle := by
    rw [same.csWord]
    exact h.vacant idle
  outgoing waits := by
    rw [same.csWord, same.idWord, same.word (data0Word txBuffer) (by decide)]
    exact h.outgoing waits

theorem move (h : Mail regs level armed flags) {regs' : RegisterFile Can.Controller.layout}
    {armed' : Bool} {flags' : UInt32} (same : SameElsewhere regs regs')
    (pending : regs'.get iflag1 = flags')
    (wanted : regs'.get (idWord rxBuffer) = Word.standardId setpointId)
    (empty : anySet flags' rxFlag = false →
      regs'.get (csWord rxBuffer) = Word.cs Code.rxEmpty 0)
    (vacant : armed' = false →
      Word.codeOf (regs'.get (csWord txBuffer)) = Code.txInactive)
    (outgoing : armed' = true → regs'.get (csWord txBuffer) = Word.cs Code.txData 2 ∧
      regs'.get (idWord txBuffer) = Word.standardId sampleId ∧
      regs'.get (data0Word txBuffer) = level.toUInt32 <<< 16) : Mail regs' level armed' flags' where
  config := (congrArg (· &&& ~~~Mcr.status) (same _ (by decide))).trans h.config
  filter := (same _ (by decide)).trans h.filter
  unmasked := (same _ (by decide)).trans h.unmasked
  pending := pending
  wanted := wanted
  empty := empty
  unused n inside notRx notTx := by
    have other : csWord n ∉ mailWords := by
      have later : 0 < n := Nat.pos_of_ne_zero notRx
      have apart : n ≠ 8 := notTx
      simp only [mailWords, csWord, idWord, data0Word, data1Word, iflag1, rxBuffer, txBuffer,
        List.mem_cons, List.not_mem_nil, or_false]
      omega
    rw [same _ other]
    exact h.unused n inside notRx notTx
  zeros := (same _ (by decide)).trans h.zeros
  vacant := vacant
  outgoing := outgoing

theorem mcr_eq (h : Mail regs level armed flags) :
    regs.get mcr &&& ~~~Mcr.status = (0x0F : UInt32) &&& ~~~Mcr.status := h.config

theorem scanned (h : Mail c.regs level armed flags) : c.scanned = List.range 16 := by
  rw [Can.Controller.scanned, and_eq_of_config h.mcr_eq (by decide)]
  rfl

theorem free (h : Mail regs level armed flags) :
    anySet (regs.get mcr) (Mcr.mdis ||| Mcr.halt) = false :=
  anySet_eq_of_config h.mcr_eq (by decide)

-- ---------------------------------------------------------------------------
-- A frame from the bus
-- ---------------------------------------------------------------------------

/-- Below the mask an identifier of eleven bits differs from another if it is another. -/
theorem standardId_match (id : UInt32) :
    (Word.standardId setpointId ^^^ Word.standardId id) &&&
        (Word.standardId 0x7FF &&& extendedIdMask) = 0 ↔ id &&& standardIdMask = setpointId := by
  have table : ∀ n < 0x800, (Word.standardId setpointId ^^^ (UInt32.ofNat n <<< 18)) &&&
      (Word.standardId 0x7FF &&& extendedIdMask) = 0 ↔ UInt32.ofNat n = setpointId := by
    decide +kernel
  have low : (id &&& standardIdMask).toNat < 0x800 := by
    rw [UInt32.toNat_and]
    exact Nat.lt_succ_of_le Nat.and_le_right
  have := table _ low
  rwa [UInt32.ofNat_toNat] at this

theorem accepts_rxBuffer (h : Mail c.regs level armed 0) (frame : Frame) :
    c.accepts rxBuffer frame =
      (!frame.extended && frame.id &&& standardIdMask == setpointId) := by
  have mask : c.maskOf rxBuffer = Word.standardId 0x7FF := by
    have common : anySet (c.regs.get mcr) Mcr.irmq = false :=
      anySet_eq_of_config h.mcr_eq (by decide)
    unfold maskOf
    rw [common, h.filter]
    rfl
  have format : anySet (Word.cs Code.rxEmpty 0) Word.ide = false := by decide
  unfold accepts
  rw [h.empty rfl, h.wanted, mask, format, Word.id]
  cases frame.extended with
  | true => rfl
  | false =>
    rw [Bool.eq_iff_iff]
    simpa using standardId_match frame.id

/-- What the handlers leave in each of the sixteen buffers. -/
theorem code_eq (h : Mail c.regs level armed 0) {n : Nat} (inside : n < 16) :
    c.code n =
      if n = rxBuffer then Code.rxEmpty
      else if n = txBuffer then if armed then Code.txData else Code.txInactive
      else Code.rxInactive := by
  unfold code
  split
  · next rx =>
    rw [rx, h.empty rfl]
    rfl
  next notRx =>
  split
  · next tx =>
    subst tx
    cases armed with
    | true =>
      rw [(h.outgoing rfl).1]
      rfl
    | false => exact h.vacant rfl
  · next notTx => exact h.unused n inside notRx notTx

theorem receives_eq (h : Mail c.regs level armed 0) {n : Nat} (inside : n < 16) :
    Code.receives (c.code n) = (n == rxBuffer) := by
  rw [h.code_eq inside]
  split
  · next rx => rw [rx]; rfl
  · next notRx =>
    rw [beq_eq_false_iff_ne.2 notRx]
    split
    · cases armed <;> rfl
    · rfl

theorem chooseBuffer (h : Mail c.regs level armed 0) (frame : Frame) :
    c.chooseBuffer frame =
      if !frame.extended && frame.id &&& standardIdMask == setpointId then some (rxBuffer, false)
      else none := by
  have candidates : c.candidates frame =
      if !frame.extended && frame.id &&& standardIdMask == setpointId then [rxBuffer] else [] := by
    have only : ∀ n ∈ List.range 16, (Code.receives (c.code n) && c.accepts n frame) =
        (n == rxBuffer && (!frame.extended && frame.id &&& standardIdMask == setpointId)) := by
      intro n mem
      rw [h.receives_eq (List.mem_range.1 mem)]
      by_cases rx : n = rxBuffer
      · rw [rx, h.accepts_rxBuffer]
      · rw [beq_eq_false_iff_ne.2 rx, Bool.false_and, Bool.false_and]
    rw [Can.Controller.candidates, h.scanned, List.filter_congr only]
    cases !frame.extended && frame.id &&& standardIdMask == setpointId <;> rfl
  have code : (c.code rxBuffer == Code.rxEmpty) = true := by
    unfold Can.Controller.code
    rw [h.empty rfl]
    rfl
  unfold Can.Controller.chooseBuffer
  rw [candidates]
  split
  · simp only [List.find?_cons, code]
  · rfl

def filled (c : Can.Controller) (frame : Frame) : RegisterFile Can.Controller.layout :=
  (c.fillBuffer rxBuffer false frame).regs.setBits iflag1 rxFlag

theorem sameElsewhere_filled (c : Can.Controller) (frame : Frame) :
    SameElsewhere c.regs (filled c frame) := by
  have start : SameElsewhere c.regs c.regs := fun _ _ => rfl
  unfold filled fillBuffer
  exact ((((start.set (by decide) _).set (by decide) _).set (by decide) _).set (by decide) _).set
    (by decide) _

theorem get_filled_txBuffer (c : Can.Controller) (frame : Frame) {i : Nat} (later : 13 < i) :
    (filled c frame).get i = c.regs.get i := by
  unfold filled fillBuffer
  rw [RegisterFile.setBits, RegisterFile.get_set_ne _ (by unfold iflag1; omega),
    RegisterFile.get_set_ne _ (by unfold data1Word rxBuffer; omega),
    RegisterFile.get_set_ne _ (by unfold data0Word rxBuffer; omega),
    RegisterFile.get_set_ne _ (by unfold idWord rxBuffer; omega),
    RegisterFile.get_set_ne _ (by unfold csWord rxBuffer; omega)]

theorem get_filled_data (c : Can.Controller) (frame : Frame) :
    (filled c frame).get (data0Word rxBuffer) >>> 16 = setpointOf frame := by
  unfold filled fillBuffer
  rw [RegisterFile.setBits, RegisterFile.get_set_ne _ (by decide),
    RegisterFile.get_set_ne _ (by decide), get_set_lt _ (by decide), setpointOf]

/-- The buffer that stores a frame keeps the identifier it waits for. -/
theorem fill (h : Mail c.regs level armed 0) {frame : Frame} (standard : frame.extended = false)
    (matching : frame.id &&& standardIdMask = setpointId) :
    Mail (filled c frame) level armed rxFlag := by
  refine h.move (sameElsewhere_filled c frame) ?_ ?_ nofun (fun idle => ?_) fun waits => ?_
  · have flags : (c.fillBuffer rxBuffer false frame).regs.get iflag1 = c.regs.get iflag1 := by
      unfold fillBuffer
      rw [RegisterFile.get_set_ne _ (by decide), RegisterFile.get_set_ne _ (by decide),
        RegisterFile.get_set_ne _ (by decide), RegisterFile.get_set_ne _ (by decide)]
    rw [filled, RegisterFile.setBits, get_set_lt _ (by decide), flags, h.pending]
    rfl
  · have identifier : Word.id frame = Word.standardId setpointId := by
      unfold Word.id Word.standardId
      rw [standard, matching]
      rfl
    unfold filled fillBuffer
    rw [RegisterFile.setBits, RegisterFile.get_set_ne _ (by decide),
      RegisterFile.get_set_ne _ (by decide), RegisterFile.get_set_ne _ (by decide),
      get_set_lt _ (by decide), identifier]
  · rw [get_filled_txBuffer _ _ (by decide)]
    exact h.vacant idle
  · rw [get_filled_txBuffer _ _ (by decide), get_filled_txBuffer _ _ (by decide),
      get_filled_txBuffer _ _ (by decide)]
    exact h.outgoing waits

theorem receive (h : Mail c.regs level armed 0) (frame : Frame) :
    ∃ regs trace, c.receive frame = (bringsSetpoint frame, { c with regs, trace }) ∧
      Mail regs level armed (if bringsSetpoint frame then rxFlag else 0) ∧
      (bringsSetpoint frame = true → regs.get (data0Word rxBuffer) >>> 16 = setpointOf frame) := by
  have chosen := h.chooseBuffer frame
  have brings : bringsSetpoint frame =
      ((!frame.extended && frame.id &&& standardIdMask == setpointId) && !frame.remote) := by
    unfold bringsSetpoint
    cases frame.extended <;> cases frame.remote <;> simp
  rw [brings]
  unfold Can.Controller.receive
  split at chosen
  · next matching =>
    rw [chosen, matching]
    cases remote : frame.remote with
    | true => exact ⟨_, _, congrArg (Prod.mk false) (record_eq c _ _ _), h, nofun⟩
    | false =>
      obtain ⟨standard, same⟩ :
          frame.extended = false ∧ frame.id &&& standardIdMask = setpointId := by
        simpa using matching
      have unmasked :
          anySet ((c.fillBuffer rxBuffer false frame).regs.get imask1) rxFlag = true := by
        have same := sameElsewhere_filled c frame imask1 (by decide)
        rw [filled, RegisterFile.setBits, RegisterFile.get_set_ne _ (by decide), h.unmasked] at same
        rw [same]
        rfl
      have stored : ((c.fillBuffer rxBuffer false frame).record .rx frame (some rxBuffer)).complete
          rxBuffer = (true, { c with
            regs := filled c frame
            trace := c.traced ⟨c.bus, .rx, frame, some (UInt8.ofNat rxBuffer)⟩ }) := by
        rw [record_eq]
        exact congrArg (·, _) unmasked
      exact ⟨_, _, stored, h.fill standard same, fun _ => get_filled_data c frame⟩
  · next other =>
    rw [chosen, Bool.eq_false_iff.2 other]
    exact ⟨_, _, congrArg (Prod.mk false) (record_eq c _ _ _), h, nofun⟩

-- ---------------------------------------------------------------------------
-- A sample to the bus
-- ---------------------------------------------------------------------------

theorem armed_eq (h : Mail c.regs level armed 0) {n : Nat} (inside : n < 16) :
    Code.armed (c.code n) = (n == txBuffer && armed) := by
  rw [h.code_eq inside]
  split
  · next rx => rw [rx]; rfl
  · split
    · next tx => rw [tx]; cases armed <;> rfl
    · next notTx => rw [beq_eq_false_iff_ne.2 notTx]; rfl

theorem armedBuffer? (h : Mail c.regs level armed 0) :
    c.armedBuffer? = if armed then some txBuffer else none := by
  unfold Can.Controller.armedBuffer?
  rw [h.scanned, ← List.head?_filter, List.filter_congr fun n mem =>
    h.armed_eq (List.mem_range.1 mem)]
  cases armed <;> rfl

theorem frameOf (h : Mail c.regs level true 0) : c.frameOf txBuffer = sampleFrame level := by
  obtain ⟨cs, id, data⟩ := h.outgoing rfl
  have high : (level.toUInt32 <<< (16 : UInt32) >>> (24 : UInt32)).toUInt8 =
      (level >>> 8).toUInt8 := by
    apply Word.byte_ext
    simp
  have low : (level.toUInt32 <<< (16 : UInt32) >>> (16 : UInt32)).toUInt8 = level.toUInt8 := by
    apply Word.byte_ext
    simp
  have third : (level.toUInt32 <<< (16 : UInt32) >>> (8 : UInt32)).toUInt8 = 0 := by
    apply Word.byte_ext
    simp
  have fourth : (level.toUInt32 <<< (16 : UInt32)).toUInt8 = 0 := by
    apply Word.byte_ext
    simp
  have bytes : c.data txBuffer = padData [(level >>> 8).toUInt8, level.toUInt8] := by
    unfold Can.Controller.data
    rw [data, h.zeros]
    apply Vector.ext
    intro i hi
    match i, hi with
    | 0, _ | 1, _ | 2, _ | 3, _ | 4, _ | 5, _ | 6, _ | 7, _ =>
      simp [Word.bytes, padData, high, low, third, fourth]
  unfold Can.Controller.frameOf
  rw [cs, id, bytes]
  rfl

theorem transmit (h : Mail c.regs level true 0) :
    ∃ regs trace, c.transmit txBuffer =
        (true, { c with regs, trace, outbox := c.outbox ++ [sampleFrame level] }) ∧
      Mail regs level false txFlag := by
  have start : SameElsewhere c.regs c.regs := fun _ _ => rfl
  have sent := start.set (i := csWord txBuffer) (by decide) (c.sentWord txBuffer)
  have unmasked : anySet ((c.regs.set (csWord txBuffer) (c.sentWord txBuffer)).get imask1)
      txFlag = true := by
    rw [sent imask1 (by decide), h.unmasked]
    rfl
  have transmitted : c.transmit txBuffer = (true, { c with
      regs := (c.regs.set (csWord txBuffer) (c.sentWord txBuffer)).setBits iflag1 txFlag
      trace := c.traced ⟨c.bus, .tx, sampleFrame level, some (UInt8.ofNat txBuffer)⟩
      outbox := c.outbox ++ [sampleFrame level] }) := by
    unfold Can.Controller.transmit
    rw [h.frameOf]
    simp only [record_eq]
    exact congrArg (·, _) unmasked
  have kept {i : Nat} (code : csWord txBuffer ≠ i) (flag : iflag1 ≠ i) :
      ((c.regs.set (csWord txBuffer) (c.sentWord txBuffer)).setBits iflag1 txFlag).get i =
        c.regs.get i := by
    rw [RegisterFile.setBits, RegisterFile.get_set_ne _ flag, RegisterFile.get_set_ne _ code]
  refine ⟨_, _, transmitted, h.move (sent.set (by decide) _) ?_ ?_ ?_ ?_ nofun⟩
  · rw [RegisterFile.setBits, get_set_lt _ (by decide), RegisterFile.get_set_ne _ (by decide),
      h.pending]
    rfl
  · exact (kept (by decide) (by decide)).trans h.wanted
  · exact fun _ => (kept (by decide) (by decide)).trans (h.empty rfl)
  · intro _
    rw [RegisterFile.setBits, RegisterFile.get_set_ne _ (by decide), get_set_lt _ (by decide),
      codeOf_sentWord, code, (h.outgoing rfl).1]
    rfl

-- ---------------------------------------------------------------------------
-- Firmware's writes
-- ---------------------------------------------------------------------------

/-- The registers that firmware writes and that take every bit as it is. -/
def plainWords : List Nat :=
  [globalMask, imask1, csWord rxBuffer, idWord rxBuffer, csWord txBuffer, idWord txBuffer,
    data0Word txBuffer]

theorem commit_eq_set {i : Nat} (plain : i ∈ plainWords) (c : Can.Controller) (word : UInt32) :
    c.commit i word = { c with regs := c.regs.set i word } := by
  have table : ∀ i ∈ plainWords, i ≠ mcr ∧ (Can.Controller.layout[i]?).map
      (fun r => (r.writable, r.onWrite)) = some (0xFFFFFFFF, .replace) := by decide +kernel
  obtain ⟨other, action⟩ := table i plain
  exact commit_of_plain other action c word

/-- The handler of the converter puts the sample into the vacant buffer. -/
theorem publish (h : Mail regs level armed flags) :
    Mail (((regs.set (idWord txBuffer) (Word.standardId sampleId)).set (data0Word txBuffer)
      (level.toUInt32 <<< 16)).set (csWord txBuffer) (Word.cs Code.txData 2)) level true flags := by
  have start : SameElsewhere regs regs := fun _ _ => rfl
  have same := ((start.set (i := idWord txBuffer) (by decide) (Word.standardId sampleId)).set
    (i := data0Word txBuffer) (by decide) (level.toUInt32 <<< 16)).set (i := csWord txBuffer)
      (by decide) (Word.cs Code.txData 2)
  have kept {i : Nat} (early : i < 42) :
      (((regs.set (idWord txBuffer) (Word.standardId sampleId)).set (data0Word txBuffer)
        (level.toUInt32 <<< 16)).set (csWord txBuffer) (Word.cs Code.txData 2)).get i =
          regs.get i := by
    rw [RegisterFile.get_set_ne _ (by unfold csWord txBuffer; omega),
      RegisterFile.get_set_ne _ (by unfold data0Word txBuffer; omega),
      RegisterFile.get_set_ne _ (by unfold idWord txBuffer; omega)]
  refine h.move same ?_ ?_ ?_ nofun fun _ => ⟨?_, ?_, ?_⟩
  · exact (kept (by decide)).trans h.pending
  · exact (kept (by decide)).trans h.wanted
  · exact fun clear => (kept (by decide)).trans (h.empty clear)
  · rw [get_set_lt _ (by decide)]
  · rw [RegisterFile.get_set_ne _ (by decide), RegisterFile.get_set_ne _ (by decide),
      get_set_lt _ (by decide)]
  · rw [RegisterFile.get_set_ne _ (by decide), get_set_lt _ (by decide)]

/-- The handler of the controller makes the receiving buffer ready for the next setpoint. -/
theorem release (h : Mail regs level armed flags) :
    Mail (regs.set (csWord rxBuffer) (Word.cs Code.rxEmpty 0)) level armed flags := by
  have start : SameElsewhere regs regs := fun _ _ => rfl
  have kept {i : Nat} (other : csWord rxBuffer ≠ i) :
      (regs.set (csWord rxBuffer) (Word.cs Code.rxEmpty 0)).get i = regs.get i :=
    RegisterFile.get_set_ne _ other _
  refine h.move (start.set (by decide) _) ((kept (by decide)).trans h.pending)
    ((kept (by decide)).trans h.wanted) (fun _ => get_set_lt _ (by decide) _) (fun idle => ?_)
      fun waits => ?_
  · rw [kept (by decide)]
    exact h.vacant idle
  · rw [kept (by decide), kept (by decide), kept (by decide)]
    exact h.outgoing waits

/-- The handler of the controller has seen all flags, with the receiving buffer empty again. -/
theorem acknowledge (h : Mail regs level armed flags)
    (empty : regs.get (csWord rxBuffer) = Word.cs Code.rxEmpty 0) :
    Mail (regs.store iflag1 flags) level armed 0 := by
  have start : SameElsewhere regs regs := fun _ _ => rfl
  have kept {i : Nat} (other : iflag1 ≠ i) : (regs.store iflag1 flags).get i = regs.get i :=
    RegisterFile.get_set_ne _ other _
  refine h.move (start.set (by decide) _) ?_ ((kept (by decide)).trans h.wanted)
    (fun _ => (kept (by decide)).trans empty) (fun idle => ?_) fun waits => ?_
  · have cleared : (Can.Controller.layout[iflag1]?).map (fun r => (r.writable, r.onWrite)) =
        some (0xFFFFFFFF, .clearOnes) := by decide +kernel
    obtain ⟨r, there, same⟩ := Option.map_eq_some_iff.1 cleared
    obtain ⟨writable, onWrite⟩ := Prod.mk.inj same
    unfold RegisterFile.store
    rw [get_set_lt _ (by decide), Layout.onRegister, there, h.pending]
    have all : (0xFFFFFFFF : UInt32) = ~~~0 := rfl
    simp only [Register.store, Register.combine, onWrite, writable, all]
    simp
  · rw [kept (by decide)]
    exact h.vacant idle
  · rw [kept (by decide), kept (by decide), kept (by decide)]
    exact h.outgoing waits

end Mail

end BoardSim.Demo
