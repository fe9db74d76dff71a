import BoardSim.Proofs.Can.Transmission

/-!
# The filter of a message buffer

A stored frame takes the place of the identifier and the format that its buffer was set up with.
What the buffer lets in depends on less: on the format, on the mask, and on the bits of the
identifier that the mask selects (`Filter`). A frame that is let in agrees with the filter in these,
so no reception moves the filter, and neither does anything else that firmware has no part in
(`accepts_after`).
-/

namespace BoardSim.Can

structure Filter where
  extended : Bool
  mask : UInt32
  identifier : UInt32
deriving DecidableEq

def Filter.admits (filter : Filter) (frame : Frame) : Bool :=
  filter.extended == frame.extended && filter.identifier == Word.id frame &&& filter.mask

def Action.IsWrite (a : Action) : Prop :=
  ∃ offset size payload, a = .access offset size .write payload

namespace Controller

variable {c d : Controller} {n : Nat}

def filter (c : Controller) (n : Nat) : Filter where
  extended := anySet (c.regs.get (csWord n)) Word.ide
  mask := c.maskOf n &&& extendedIdMask
  identifier := c.regs.get (idWord n) &&& (c.maskOf n &&& extendedIdMask)

theorem xor_and_eq_zero_iff {a b mask : UInt32} :
    (a ^^^ b) &&& mask = 0 ↔ a &&& mask = b &&& mask := by
  have distrib : (a ^^^ b) &&& mask = (a &&& mask) ^^^ (b &&& mask) := by
    apply UInt32.eq_of_toBitVec_eq
    ext i
    simp [Bool.and_xor_distrib_right]
  rw [distrib, UInt32.xor_eq_zero_iff]

theorem accepts_eq (c : Controller) (n : Nat) (frame : Frame) :
    c.accepts n frame = (c.filter n).admits frame := by
  rw [Bool.eq_iff_iff]
  simp only [accepts, Filter.admits, filter, Bool.and_eq_true, beq_iff_eq, xor_and_eq_zero_iff]

-- ---------------------------------------------------------------------------
-- One frame
-- ---------------------------------------------------------------------------

theorem Alike.filter (same : Alike c d) (n : Nat) : d.filter n = c.filter n := by
  unfold Controller.filter
  rw [same.maskOf, same.csWord, same.idWord]

section
variable {m : Nat} (there : m < bufferCount)
  (same : ∀ i, i ≠ iflag1 → i ∉ bufferWords m → d.regs.get i = c.regs.get i)
include there same

/-- No mask lies in a message buffer. -/
theorem maskOf_congr (n : Nat) : d.maskOf n = c.maskOf n := by
  have control {i : Nat} (early : i < iflag1) : d.regs.get i = c.regs.get i :=
    same i (Nat.ne_of_lt early) fun mem => Nat.lt_asymm early (lt_of_mem_bufferWords mem)
  have own : d.regs.get (individualMask n) = c.regs.get (individualMask n) := by
    refine same _ (by unfold individualMask iflag1; omega) ?_
    unfold bufferCount at there
    rw [mem_bufferWords]
    unfold individualMask
    omega
  unfold maskOf
  rw [control (by decide : mcr < iflag1), control (by decide : mask14 < iflag1),
    control (by decide : mask15 < iflag1), control (by decide : globalMask < iflag1), own]

theorem filter_congr_of_ne {n : Nat} (other : n ≠ m) :
    d.filter n = c.filter n ∧ d.code n = c.code n := by
  have own {k : Nat} (small : k < 4) :
      d.regs.get (10 + 4 * n + k) = c.regs.get (10 + 4 * n + k) := by
    refine same _ (by unfold iflag1; omega) ?_
    rw [mem_bufferWords]
    omega
  have cs : d.regs.get (csWord n) = c.regs.get (csWord n) := own (k := 0) (by decide)
  have id : d.regs.get (idWord n) = c.regs.get (idWord n) := own (by decide)
  unfold filter code
  rw [maskOf_congr there same, cs, id]
  exact ⟨rfl, rfl⟩

end

structure Filters (c : Controller) (n : Nat) (filter : Filter) : Prop where
  receives : Code.receives (c.code n) = true
  filter_eq : c.filter n = filter

variable {filter : Filter}

theorem Filters.congr (h : Filters c n filter) (same : d.filter n = c.filter n)
    (code : d.code n = c.code n) : Filters d n filter :=
  ⟨(congrArg Code.receives code).trans h.receives, same.trans h.filter_eq⟩

/-- The frame that a buffer takes has the format and the selected bits that it wants. -/
theorem filters_stored {frame : Frame} {overrun : Bool} (inside : n < bufferCount)
    (admits : Admits c frame n) (trace : Array TraceEvent) :
    Filters { c with regs := c.storedFile n overrun frame, trace } n (c.filter n) := by
  have stored := c.holds_storedFile inside overrun frame
  have mask : ({ c with regs := c.storedFile n overrun frame, trace } : Controller).maskOf n =
      c.maskOf n :=
    maskOf_congr inside (d := { c with regs := c.storedFile n overrun frame, trace })
      (fun _ noFlag other => c.get_storedFile_ne noFlag other) n
  constructor
  · refine (congrArg Code.receives stored.code).trans ?_
    cases overrun <;> rfl
  · unfold Controller.filter
    rw [mask, stored.extended, stored.identifier, admits.format,
      xor_and_eq_zero_iff.1 admits.identifier]

theorem Filters.receive (h : Filters c n filter) (frame : Frame) :
    Filters (c.receive frame).2 n filter := by
  have refused (unstored : frame.remote = true ∨ c.chooseBuffer frame = none) :
      Filters (c.receive frame).2 n filter := by
    obtain ⟨trace, same⟩ := c.receive_refused unstored
    rw [same]
    exact h.congr rfl rfl
  rcases chosen : c.chooseBuffer frame with _ | ⟨m, overrun⟩
  · exact refused (.inr chosen)
  cases remote : frame.remote with
  | true => exact refused (.inl remote)
  | false =>
    have there := lt_of_chooseBuffer chosen
    have stored := receive_stored chosen remote
    by_cases same : n = m
    · subst same
      rw [stored]
      exact h.filter_eq ▸ filters_stored there (mem_candidates.1 (mem_of_chooseBuffer chosen)) _
    · have words : ∀ i, i ≠ iflag1 → i ∉ bufferWords m →
          (c.receive frame).2.regs.get i = c.regs.get i := by
        rw [stored]
        exact fun _ noFlag other => c.get_storedFile_ne noFlag other
      obtain ⟨filter, code⟩ := filter_congr_of_ne there words same
      exact h.congr filter code

/-- A buffer that receives is not sent. -/
theorem Filters.transmit (h : Filters c n filter) {m : Nat} (armed : c.armedBuffer? = some m) :
    Filters (c.transmit m).2 n filter := by
  obtain ⟨scanned, waits⟩ := armedBuffer?_eq_some armed
  have other : n ≠ m := by
    rintro rfl
    have waits : Code.armed (c.code n) = true := waits
    have receives := h.receives
    simp only [Code.receives, Code.armed, Bool.or_eq_true, beq_iff_eq] at waits receives
    rcases waits with code | code <;> rw [code] at receives <;> revert receives <;> decide
  have words : ∀ i, i ≠ iflag1 → i ∉ bufferWords m →
      (c.transmit m).2.regs.get i = c.regs.get i := by
    rw [transmit_eq]
    intro i noFlag elsewhere
    exact c.get_sentFile_ne noFlag fun cs => elsewhere (by simp [bufferWords, cs])
  obtain ⟨filter, code⟩ := filter_congr_of_ne (mem_scanned.1 scanned).2 words other
  exact h.congr filter code

-- ---------------------------------------------------------------------------
-- A run
-- ---------------------------------------------------------------------------

/-- What can be told from the registers, and outlives the handling of a frame, outlives a step of
time. -/
theorem advance_keeps {P : Controller → Prop} (same : ∀ c d, Alike c d → P c → P d)
    (receive : ∀ c frame, P c → P (c.receive frame).2)
    (transmit : ∀ c n, c.armedBuffer? = some n → P c → P (c.transmit n).2) (h : P c)
    (nanos : Nat) : P (c.advance nanos).1 := by
  have ticked : P (c.ticked nanos) := same _ _ (Alike.ticked c nanos) h
  have entered {d : Controller} (h : P d) (mode : Mode) : P (d.enter mode) :=
    same _ _ (Alike.enter d mode) h
  have exchanged : P (c.ticked nanos).exchange.1 := by
    unfold exchange
    split
    · next frame rest _ =>
      have taken : P { c.ticked nanos with inbox := rest } :=
        same (c.ticked nanos) _ ⟨rfl, rfl, fun _ _ => rfl⟩ ticked
      exact entered (receive _ frame (entered taken .rx)) .idle
    · split
      · exact ticked
      · next n armed =>
        have chosen := (Alike.enter (c.ticked nanos) .tx).armedBuffer?.trans armed
        exact entered (transmit _ n chosen (entered ticked .tx)) .idle
  have held : P (if anySet ((c.ticked nanos).regs.get mcr) (Mcr.mdis ||| Mcr.halt)
      then c.ticked nanos else (c.ticked nanos).enter .idle) := by
    split
    · exact ticked
    · exact entered ticked .idle
  rw [advance_eq]
  split
  · rw [discardAll_eq]
    exact same (c.ticked nanos) _ ⟨rfl, rfl, fun _ _ => rfl⟩ ticked
  · exact held
  · exact held
  · exact exchanged
  · exact exchanged
  · exact exchanged

theorem Filters.advance (h : Filters c n filter) (nanos : Nat) :
    Filters (c.advance nanos).1 n filter :=
  advance_keeps (P := (Filters · n filter))
    (fun _ _ same h => h.congr (same.filter n) (same.code n))
    (fun _ frame h => h.receive frame) (fun _ _ armed h => h.transmit armed) h nanos

theorem Filters.act (h : Filters c n filter) {a : Action} (unwritten : ¬a.IsWrite) :
    Filters (c.act a) n filter := by
  cases a with
  | access offset size direction payload =>
    cases direction with
    | read =>
      show Filters (Peripheral.load c offset size).2 n filter
      rwa [Peripheral.snd_load snd_read]
    | write => exact absurd ⟨offset, size, payload, rfl⟩ unwritten
  | advance nanos => exact h.advance nanos
  | inject frame => exact h.congr rfl rfl
  | collect => exact h.congr rfl rfl
  | collectAll => exact h.congr rfl rfl

theorem Filters.after (h : Filters c n filter) {actions : List Action}
    (unwritten : ∀ a ∈ actions, ¬a.IsWrite) : Filters (c.after actions) n filter := by
  induction actions generalizing c with
  | nil => exact h
  | cons a rest ih =>
    obtain ⟨first, later⟩ := List.forall_mem_cons.1 unwritten
    exact ih (h.act first) later

/-- While firmware writes no register, a buffer that receives goes on to, and lets the same frames
in. -/
theorem accepts_after (c : Controller) {n : Nat} {actions : List Action}
    (receives : c.code n = Code.rxEmpty ∨ c.code n = Code.rxFull ∨ c.code n = Code.rxOverrun)
    (unwritten : ∀ a ∈ actions, ¬a.IsWrite) :
    let d := c.after actions
    (d.code n = Code.rxEmpty ∨ d.code n = Code.rxFull ∨ d.code n = Code.rxOverrun) ∧
      ∀ frame, d.accepts n frame = c.accepts n frame := by
  have named (d : Controller) : Code.receives (d.code n) = true ↔
      d.code n = Code.rxEmpty ∨ d.code n = Code.rxFull ∨ d.code n = Code.rxOverrun := by
    simp [Code.receives, or_assoc]
  have kept := Filters.after ⟨(named c).2 receives, rfl⟩ unwritten
  refine ⟨(named _).1 kept.receives, fun frame => ?_⟩
  rw [accepts_eq, accepts_eq, kept.filter_eq]

/-- Firmware sets buffer 2 up for the identifiers from 0x120 to 0x127. -/
def screening : List Action :=
  [.access Offset.mcr .word .write 0x0F, .advance 0,
    .access Offset.globalMask .word .write (Word.standardId 0x7F8).toUInt64,
    .access (bufferOffset 2 + 4) .word .write (Word.standardId 0x120).toUInt64,
    .access (bufferOffset 2) .word .write (Word.cs Code.rxEmpty 0).toUInt64]

def passing : List Action :=
  [.inject (.standard 0x127 [9]), .advance 1000, .inject (.standard 0x121 []), .advance 1000]

theorem accepts_after_passing :
    let c := ({ bus := 0 } : Controller).after screening
    let d := c.after passing
    c.code 2 = Code.rxEmpty ∧ d.code 2 = Code.rxOverrun ∧
      c.regs.get (idWord 2) = Word.standardId 0x120 ∧
        d.regs.get (idWord 2) = Word.standardId 0x121 ∧
          ∀ frame, d.accepts 2 frame = c.accepts 2 frame := by
  have empty : (({ bus := 0 } : Controller).after screening).code 2 = Code.rxEmpty := by
    decide +kernel
  have unwritten : ∀ a ∈ passing, ¬a.IsWrite := by simp [passing, Action.IsWrite]
  exact ⟨empty, by decide +kernel, by decide +kernel, by decide +kernel,
    (accepts_after _ (.inl empty) unwritten).2⟩

end Controller

end BoardSim.Can
