import BoardSim.Can.Controller
import BoardSim.Proofs.Peripheral.Reach

/-!
# Message buffers

What handling one frame does to a controller: `receive_cases` and `transmit_cases` give the queues
and the trace after it. Handling starts from registers that are `Alike` those before the step, since
only the time stamp and the status bits of `MCR` have moved, so the buffer is chosen by what
firmware and earlier frames left there. No frame arms a buffer or touches firmware's bits of `MCR`
(`Handled`).
-/

namespace BoardSim.Can.Controller

-- ---------------------------------------------------------------------------
-- The layout
-- ---------------------------------------------------------------------------

theorem onRead_of_mem_layout {r : Register} (h : r ∈ layout) : r.onRead = .keep := by
  rw [layout, List.mem_append, List.mem_append, List.mem_flatMap, List.mem_map] at h
  rcases h with (control | ⟨n, -, buffer⟩) | ⟨n, -, rfl⟩
  · simp only [controlLayout, List.mem_cons, List.not_mem_nil, or_false] at control
    rcases control with rfl | rfl | rfl | rfl | rfl | rfl | rfl | rfl | rfl | rfl <;> rfl
  · simp only [bufferLayout, List.mem_cons, List.not_mem_nil, or_false] at buffer
    rcases buffer with rfl | rfl | rfl | rfl <;> rfl
  · rfl

theorem length_layout : layout.length = 170 := by decide +kernel

theorem offset_csWord : ∀ n < bufferCount,
    (layout[csWord n]?).map Register.offset = some (bufferOffset (UInt64.ofNat n)) := by
  decide +kernel

theorem settle_eq (c : Controller) (i : Nat) : Peripheral.settle c i = c :=
  Peripheral.settle_of_keep (fun _ => onRead_of_mem_layout) i

theorem snd_read (c : Controller) (offset : UInt64) : (Peripheral.read c offset).2 = c := by
  unfold Peripheral.read
  split
  · rfl
  · exact settle_eq c _

theorem kept_of_commit {P : Controller → Prop}
    (commit : ∀ c i word, P c → P (Controller.commit c i word)) : Peripheral.Kept P where
  fetch _ _ h := h
  settle c i h := by rwa [settle_eq]
  commit := commit

/-- A write of a register that takes every bit as it is. -/
theorem commit_of_plain {i : Nat} (other : i ≠ mcr) (plain : (layout[i]?).map
    (fun r => (r.writable, r.onWrite)) = some (0xFFFFFFFF, .replace)) (c : Controller)
    (word : UInt32) : c.commit i word = { c with regs := c.regs.set i word } := by
  obtain ⟨r, there, same⟩ := Option.map_eq_some_iff.1 plain
  unfold commit
  rw [if_neg other, RegisterFile.store, Layout.onRegister, there]
  simp only [Register.store_of_plain same]

-- ---------------------------------------------------------------------------
-- What the status bits and the time stamp leave alone
-- ---------------------------------------------------------------------------

/-- Equal registers, but for the time stamp, the status bits of `MCR` and `CTRL1`. -/
structure Alike (c d : Controller) : Prop where
  bus : d.bus = c.bus
  config : d.regs.get mcr &&& ~~~Mcr.status = c.regs.get mcr &&& ~~~Mcr.status
  word : ∀ i, timer < i → d.regs.get i = c.regs.get i

def ticked (c : Controller) (nanos : Nat) : Controller :=
  ({ c with transitions := [] }).advanceTimer nanos

theorem get_mcr_showMode (c : Controller) :
    c.showMode.regs.get mcr = (c.regs.get mcr &&& ~~~Mcr.status) ||| Mcr.statusOf c.mode :=
  RegisterFile.get_set _ (by rw [length_layout]; decide) _

theorem and_status_and_not_status (word : UInt32) (mode : Mode) :
    (word &&& ~~~Mcr.status ||| Mcr.statusOf mode) &&& ~~~Mcr.status = word &&& ~~~Mcr.status := by
  have apart : Mcr.statusOf mode &&& ~~~Mcr.status = 0 := by
    cases mode <;> decide
  rw [← UInt32.toBitVec_inj] at apart ⊢
  simp only [UInt32.toBitVec_and, UInt32.toBitVec_or, BitVec.and_or_distrib_right] at apart ⊢
  rw [apart, BitVec.and_assoc, BitVec.and_self]
  simp

theorem timer_lt (n k : Nat) : timer < 10 + 4 * n + k := by
  unfold timer
  omega

section
variable {before after mask : UInt32} (same : after &&& ~~~Mcr.status = before &&& ~~~Mcr.status)
  (apart : ~~~Mcr.status &&& mask = mask)
include same apart

theorem and_eq_of_config : after &&& mask = before &&& mask := by
  rw [← apart, ← UInt32.and_assoc, same, UInt32.and_assoc]

theorem anySet_eq_of_config : anySet after mask = anySet before mask := by
  rw [anySet, and_eq_of_config same apart, anySet]

end

namespace Alike

variable {c d e : Controller}

theorem trans (first : Alike c d) (second : Alike d e) : Alike c e where
  bus := second.bus.trans first.bus
  config := second.config.trans first.config
  word i later := (second.word i later).trans (first.word i later)

theorem ticked (c : Controller) (nanos : Nat) : Alike c (c.ticked nanos) where
  bus := rfl
  config := congrArg (· &&& ~~~Mcr.status) (RegisterFile.get_set_ne _ (by decide) _)
  word _ later := RegisterFile.get_set_ne _ (Nat.ne_of_lt later) _

theorem showMode (c : Controller) : Alike c c.showMode where
  bus := rfl
  config := by rw [get_mcr_showMode, and_status_and_not_status]
  word _ later := RegisterFile.get_set_ne _ (Nat.ne_of_lt (Nat.zero_lt_of_lt later)) _

theorem enter (c : Controller) (mode : Mode) : Alike c (c.enter mode) := by
  have same : Alike c { c with mode, transitions := c.transitions ++ [mode] } :=
    ⟨rfl, rfl, fun _ _ => rfl⟩
  exact same.trans (showMode _)

theorem csWord (h : Alike c d) (n : Nat) :
    d.regs.get (Controller.csWord n) = c.regs.get (Controller.csWord n) := h.word _ (timer_lt n 0)

theorem idWord (h : Alike c d) (n : Nat) :
    d.regs.get (Controller.idWord n) = c.regs.get (Controller.idWord n) := h.word _ (timer_lt n 1)

theorem scanned (h : Alike c d) : d.scanned = c.scanned := by
  rw [Controller.scanned, and_eq_of_config h.config (by decide), Controller.scanned]

theorem code (h : Alike c d) (n : Nat) : d.code n = c.code n := by
  rw [Controller.code, h.csWord, Controller.code]

theorem maskOf (h : Alike c d) (n : Nat) : d.maskOf n = c.maskOf n := by
  unfold Controller.maskOf
  rw [anySet_eq_of_config h.config (by decide), h.word _ (timer_lt 32 n),
    h.word mask14 (by decide), h.word mask15 (by decide), h.word globalMask (by decide)]

theorem candidates (h : Alike c d) (frame : Frame) : d.candidates frame = c.candidates frame := by
  have accepts (n : Nat) : d.accepts n frame = c.accepts n frame := by
    unfold Controller.accepts
    rw [h.maskOf, h.csWord, h.idWord]
  simp only [Controller.candidates, h.scanned, h.code, accepts]

theorem chooseBuffer (h : Alike c d) (frame : Frame) :
    d.chooseBuffer frame = c.chooseBuffer frame := by
  simp only [Controller.chooseBuffer, h.candidates, h.code]

theorem armedBuffer? (h : Alike c d) : d.armedBuffer? = c.armedBuffer? := by
  simp only [Controller.armedBuffer?, h.scanned, h.code]

theorem frameOf (h : Alike c d) (n : Nat) : d.frameOf n = c.frameOf n := by
  have data : d.data n = c.data n := by
    unfold Controller.data
    rw [h.word (data0Word n) (timer_lt n 2), h.word (data1Word n) (timer_lt n 3)]
  unfold Controller.frameOf
  rw [data, h.csWord, h.idWord]

end Alike

-- ---------------------------------------------------------------------------
-- One frame
-- ---------------------------------------------------------------------------

theorem mem_scanned {c : Controller} {n : Nat} :
    n ∈ c.scanned ↔ n ≤ (c.regs.get mcr &&& Mcr.maxmb).toNat ∧ n < bufferCount := by
  rw [scanned, List.mem_range]
  unfold bufferCount
  omega

theorem csWord_lt {n : Nat} (h : n < bufferCount) : csWord n < layout.length := by
  rw [length_layout]
  unfold bufferCount at h
  unfold csWord
  omega

def traced (c : Controller) (event : TraceEvent) : Array TraceEvent :=
  if c.tracing then c.trace.push event else c.trace

theorem record_eq (c : Controller) (flow : Flow) (frame : Frame) (buffer : Option Nat) :
    c.record flow frame buffer =
      { c with trace := c.traced ⟨c.bus, flow, frame, buffer.map UInt8.ofNat⟩ } := by
  unfold record traced
  split <;> rfl

inductive Arrival (c : Controller) (frame : Frame) : TraceEvent → Prop where
  | stored {n : Nat} {overrun : Bool} (chosen : c.chooseBuffer frame = some (n, overrun))
      (plain : frame.remote = false) :
      Arrival c frame ⟨c.bus, .rx, frame, some (UInt8.ofNat n)⟩
  | unanswered {n : Nat} {overrun : Bool} (chosen : c.chooseBuffer frame = some (n, overrun))
      (remote : frame.remote = true) :
      Arrival c frame ⟨c.bus, .dropped, frame, some (UInt8.ofNat n)⟩
  | refused (unwanted : c.candidates frame = []) : Arrival c frame ⟨c.bus, .dropped, frame, none⟩

namespace Arrival

variable {c d : Controller} {frame : Frame} {event : TraceEvent}

theorem of_alike (same : Alike c d) (h : Arrival d frame event) : Arrival c frame event := by
  cases h with
  | stored chosen plain => exact same.bus ▸ .stored (same.chooseBuffer frame ▸ chosen) plain
  | unanswered chosen remote =>
    exact same.bus ▸ .unanswered (same.chooseBuffer frame ▸ chosen) remote
  | refused unwanted => exact same.bus ▸ .refused (same.candidates frame ▸ unwanted)

theorem frame_eq (h : Arrival c frame event) : event.frame = frame := by
  cases h <;> rfl

theorem flow_ne (h : Arrival c frame event) : event.flow ≠ .tx := by
  cases h <;> exact nofun

end Arrival

/-- Whether a register file holds a buffer `n` that waits to be sent. -/
def armedIn (file : RegisterFile layout) (n : Nat) : Bool :=
  Code.armed (Word.codeOf (file.get (csWord n)))

theorem armedIn_set (file : RegisterFile layout) {i n : Nat} (other : i ≠ csWord n)
    (word : UInt32) : armedIn (file.set i word) n = armedIn file n := by
  rw [armedIn, RegisterFile.get_set_ne _ other, armedIn]

theorem armedIn_setBits (file : RegisterFile layout) (mask : UInt32) (n : Nat) :
    armedIn (file.setBits iflag1 mask) n = armedIn file n := by
  refine armedIn_set file ?_ _
  unfold iflag1 csWord
  omega

theorem armedBuffer?_eq_some {c : Controller} {n : Nat} (h : c.armedBuffer? = some n) :
    n ∈ c.scanned ∧ armedIn c.regs n = true :=
  ⟨List.mem_of_find?_eq_some h, List.find?_some h⟩

structure Handled (before after : RegisterFile layout) : Prop where
  config : after.get mcr &&& ~~~Mcr.status = before.get mcr &&& ~~~Mcr.status
  unarmed : ∀ n, armedIn before n = false → armedIn after n = false

theorem Alike.armedIn {c d : Controller} (h : Alike c d) (n : Nat) :
    armedIn d.regs n = armedIn c.regs n := by
  rw [Controller.armedIn, h.csWord, Controller.armedIn]

theorem Alike.handled {c d : Controller} (h : Alike c d) : Handled c.regs d.regs where
  config := h.config
  unarmed n unarmed := (h.armedIn n).trans unarmed

namespace Handled

variable {before between after : RegisterFile layout}

theorem refl (file : RegisterFile layout) : Handled file file := ⟨rfl, fun _ h => h⟩

theorem trans (first : Handled before between) (second : Handled between after) :
    Handled before after where
  config := second.config.trans first.config
  unarmed n unarmed := second.unarmed n (first.unarmed n unarmed)

theorem enter {c : Controller} (h : Handled before c.regs) (mode : Mode) :
    Handled before (c.enter mode).regs :=
  h.trans (Alike.enter c mode).handled

theorem setBits (file : RegisterFile layout) (mask : UInt32) :
    Handled file (file.setBits iflag1 mask) where
  config := congrArg (· &&& ~~~Mcr.status) (RegisterFile.get_set_ne _ (by decide) _)
  unarmed n unarmed := (armedIn_setBits file mask n).trans unarmed

end Handled

theorem codeOf_or (a b : UInt32) : Word.codeOf (a ||| b) = Word.codeOf a ||| Word.codeOf b := by
  apply UInt32.eq_of_toBitVec_eq
  ext i
  simp [Word.codeOf, Bool.and_or_distrib_right]

theorem codeOf_and (word : UInt32) {mask : UInt32} (h : Word.codeOf mask = 0) :
    Word.codeOf (word &&& mask) = 0 := by
  unfold Word.codeOf at h ⊢
  rw [UInt32.shiftRight_and, UInt32.and_assoc, h, UInt32.and_zero]

theorem codeOf_stamp (c : Controller) : Word.codeOf c.stamp = 0 := codeOf_and _ (by decide)

theorem code_fillBuffer (c : Controller) {n : Nat} (inside : n < bufferCount) (overrun : Bool)
    (frame : Frame) :
    (c.fillBuffer n overrun frame).code n = if overrun then Code.rxOverrun else Code.rxFull := by
  have format : Word.codeOf (if frame.extended then Word.ide ||| Word.srr else 0) = 0 := by
    split <;> decide
  unfold fillBuffer code
  rw [RegisterFile.get_set_ne _ (by simp), RegisterFile.get_set_ne _ (by simp),
    RegisterFile.get_set_ne _ (by simp), RegisterFile.get_set _ (csWord_lt inside), codeOf_or,
    codeOf_or, codeOf_stamp, format, Word.codeOf_cs]
  cases overrun <;> decide

theorem codeOf_sentWord (c : Controller) (n : Nat) :
    Word.codeOf (c.sentWord n) =
      if c.code n = Code.txRemote then Code.rxEmpty else Code.txInactive := by
  have kept : Word.codeOf (Word.srr ||| Word.ide ||| Word.rtr ||| Word.dlcMask) = 0 := by decide
  unfold sentWord
  rw [codeOf_or, codeOf_or, codeOf_stamp, codeOf_and _ kept, UInt32.or_zero, UInt32.or_zero]
  unfold code
  split <;> decide

theorem chooseBuffer_eq_none {c : Controller} {frame : Frame} (h : c.chooseBuffer frame = none) :
    c.candidates frame = [] := by
  simp only [chooseBuffer] at h
  split at h
  · cases h
  · simpa using h

theorem mem_of_chooseBuffer {c : Controller} {frame : Frame} {n : Nat} {overrun : Bool}
    (h : c.chooseBuffer frame = some (n, overrun)) : n ∈ c.candidates frame := by
  simp only [chooseBuffer] at h
  split at h
  · next empty found =>
    cases h
    exact List.mem_of_find?_eq_some found
  · obtain ⟨first, head, same⟩ := Option.map_eq_some_iff.1 h
    cases same
    exact List.mem_of_mem_head? head

theorem lt_of_chooseBuffer {c : Controller} {frame : Frame} {n : Nat} {overrun : Bool}
    (h : c.chooseBuffer frame = some (n, overrun)) : n < bufferCount :=
  (mem_scanned.1 (List.mem_filter.1 (mem_of_chooseBuffer h)).1).2

theorem handled_fillBuffer (c : Controller) {n : Nat} (inside : n < bufferCount) (overrun : Bool)
    (frame : Frame) : Handled c.regs (c.fillBuffer n overrun frame).regs where
  config := by
    unfold fillBuffer
    rw [RegisterFile.get_set_ne _ (by simp), RegisterFile.get_set_ne _ (by simp),
      RegisterFile.get_set_ne _ (by simp), RegisterFile.get_set_ne _ (by simp)]
  unarmed m unarmed := by
    by_cases same : n = m
    · subst same
      show Code.armed ((c.fillBuffer n overrun frame).code n) = false
      rw [code_fillBuffer c inside]
      cases overrun <;> rfl
    · -- the four words of buffer `n` are not the CS word of another buffer
      have other (k : Nat) (hk : k < 4) : 10 + 4 * n + k ≠ csWord m := by
        unfold csWord
        omega
      unfold fillBuffer
      rw [armedIn_set _ (other 3 (by decide)), armedIn_set _ (other 2 (by decide)),
        armedIn_set _ (other 1 (by decide)), armedIn_set (i := csWord n) _ (other 0 (by decide))]
      exact unarmed

theorem not_armedIn_sent (c : Controller) {n : Nat} (inside : n < bufferCount) :
    armedIn (c.regs.set (csWord n) (c.sentWord n)) n = false := by
  rw [armedIn, RegisterFile.get_set _ (csWord_lt inside), codeOf_sentWord]
  split <;> rfl

theorem handled_sent (c : Controller) {n : Nat} (inside : n < bufferCount) :
    Handled c.regs (c.regs.set (csWord n) (c.sentWord n)) where
  config := congrArg (· &&& ~~~Mcr.status) (RegisterFile.get_set_ne _ (by simp) _)
  unarmed m unarmed := by
    by_cases same : n = m
    · exact same ▸ not_armedIn_sent c inside
    · have other : csWord n ≠ csWord m := by
        unfold csWord
        omega
      rwa [armedIn_set _ other]

theorem receive_cases (c : Controller) (frame : Frame) :
    ∃ regs event, (c.receive frame).2 = { c with regs, trace := c.traced event } ∧
      Arrival c frame event ∧ Handled c.regs regs := by
  unfold receive
  split
  · next refused =>
    exact ⟨c.regs, _, record_eq c _ _ _, .refused (chooseBuffer_eq_none refused), .refl _⟩
  · next n overrun chosen =>
    have inside := lt_of_chooseBuffer chosen
    split
    · next remote => exact ⟨c.regs, _, record_eq c _ _ _, .unanswered chosen remote, .refl _⟩
    · next plain =>
      refine ⟨_, _, ?_, .stored chosen (Bool.eq_false_iff.2 plain),
        (handled_fillBuffer c inside overrun frame).trans (.setBits _ (1 <<< UInt32.ofNat n))⟩
      rw [record_eq]
      rfl

theorem transmit_cases (c : Controller) {n : Nat} (inside : n < bufferCount) :
    ∃ regs, (c.transmit n).2 =
        { c with
          regs
          outbox := c.outbox ++ [c.frameOf n]
          trace := c.traced ⟨c.bus, .tx, c.frameOf n, some (UInt8.ofNat n)⟩ } ∧
      Handled c.regs regs ∧ armedIn regs n = false := by
  refine ⟨_, ?_, (handled_sent c inside).trans (.setBits _ (1 <<< UInt32.ofNat n)), ?_⟩
  · simp only [transmit, record_eq]
    rfl
  · rw [armedIn_setBits, not_armedIn_sent c inside]

end BoardSim.Can.Controller
