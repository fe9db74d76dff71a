import Mathlib.Data.Finset.Card
import BoardSim.Proofs.Can.Reception

/-!
# Transmission of a CAN frame

What sending a message buffer leaves in the registers (`sentFile`), and when a buffer's turn comes.
Each step that finds no frame on the bus sends the lowest of the armed buffers, so a buffer waits
for the armed ones below it and for nothing else (`Waiting.turn`).
-/

namespace BoardSim.Can.Controller

variable {c d : Controller} {frame : Frame} {n m : Nat}

-- ---------------------------------------------------------------------------
-- One step
-- ---------------------------------------------------------------------------

def sentFile (c : Controller) (n : Nat) : RegisterFile layout :=
  (c.regs.set (csWord n) (c.sentWord n)).setBits iflag1 (1 <<< UInt32.ofNat n)

theorem get_sentFile_ne (c : Controller) {i : Nat} (noFlag : i ≠ iflag1) (other : i ≠ csWord n) :
    (c.sentFile n).get i = c.regs.get i := by
  rw [sentFile, RegisterFile.setBits, RegisterFile.get_set_ne _ (Ne.symm noFlag),
    RegisterFile.get_set_ne _ (Ne.symm other)]

theorem transmit_eq (c : Controller) (n : Nat) :
    c.transmit n = (anySet (c.regs.get imask1) (1 <<< UInt32.ofNat n),
      { c with
        regs := c.sentFile n
        outbox := c.outbox ++ [c.frameOf n]
        trace := c.traced ⟨c.bus, .tx, c.frameOf n, some (UInt8.ofNat n)⟩ }) := by
  have mask : (c.regs.set (csWord n) (c.sentWord n)).get imask1 = c.regs.get imask1 :=
    RegisterFile.get_set_ne _ (by unfold csWord imask1; omega) _
  simp only [transmit, record_eq, complete]
  rw [← mask]
  rfl

structure Departed (c d : Controller) (n : Nat) : Prop where
  mode : d.mode = .idle
  inbox : d.inbox = []
  outbox : d.outbox = c.outbox ++ [c.frameOf n]
  config : d.regs.get mcr &&& ~~~Mcr.status = c.regs.get mcr &&& ~~~Mcr.status
  word : ∀ i, iflag1 < i → i ≠ csWord n → d.regs.get i = c.regs.get i
  disarmed : armedIn d.regs n = false

theorem departed_transmit (same : Alike c d) (inside : n < bufferCount) (empty : d.inbox = [])
    (outbox : d.outbox = c.outbox) : Departed c ((d.transmit n).2.enter .idle) n := by
  rw [transmit_eq, same.frameOf, outbox]
  generalize d.traced _ = trace
  have left := Alike.enter ({ d with
    regs := d.sentFile n, outbox := c.outbox ++ [c.frameOf n], trace }) .idle
  refine ⟨rfl, empty, rfl, ?_, fun i later other => ?_, ?_⟩
  · have control : mcr ≠ csWord n := by
      unfold mcr csWord
      omega
    refine left.config.trans (Eq.trans ?_ same.config)
    exact congrArg (· &&& ~~~Mcr.status) (get_sentFile_ne d (by decide) control)
  · have notTimer : timer < i := Nat.lt_trans (by decide) later
    rw [left.word i notTimer, ← same.word i notTimer]
    exact get_sentFile_ne d (Nat.ne_of_gt later) other
  · rw [left.armedIn]
    show armedIn (d.sentFile n) n = false
    rw [sentFile, armedIn_setBits, not_armedIn_sent d inside]

theorem departed_of_armed (idle : c.mode = .idle) (empty : c.inbox = [])
    (armed : c.armedBuffer? = some n) (nanos : Nat) : Departed c (c.advance nanos).1 n := by
  have ticked := Alike.ticked c nanos
  have inside := (mem_scanned.1 (armedBuffer?_eq_some armed).1).2
  have waiting : (c.ticked nanos).inbox = [] := empty
  have step : (c.advance nanos).1 = (((c.ticked nanos).enter .tx).transmit n).2.enter .idle := by
    rw [advance_eq, idle]
    simp only [exchange, waiting, ticked.armedBuffer?.trans armed]
  rw [step]
  exact departed_transmit (ticked.trans (Alike.enter _ .tx)) inside empty rfl

-- ---------------------------------------------------------------------------
-- The turn of a buffer
-- ---------------------------------------------------------------------------

def ahead (c : Controller) (n : Nat) : Finset Nat :=
  (Finset.range n).filter fun m => armedIn c.regs m = true

theorem mem_ahead : m ∈ c.ahead n ↔ m < n ∧ armedIn c.regs m = true := by
  rw [ahead, Finset.mem_filter, Finset.mem_range]

/-- Buffer `n` of a running controller waits to send `frame`, and no frame is on the bus. -/
structure Waiting (c : Controller) (n : Nat) (frame : Frame) : Prop where
  mode : c.mode = .idle
  inbox : c.inbox = []
  scanned : n ∈ c.scanned
  armed : armedIn c.regs n = true
  holds : c.frameOf n = frame

theorem frameOf_congr (same : ∀ i ∈ bufferWords n, d.regs.get i = c.regs.get i) :
    d.frameOf n = c.frameOf n := by
  have word {i : Nat} (mem : i ∈ bufferWords n) : d.regs.get i = c.regs.get i := same i mem
  unfold Controller.frameOf Controller.data
  rw [word (i := csWord n) (by simp [bufferWords]), word (i := idWord n) (by simp [bufferWords]),
    word (i := data0Word n) (by simp [bufferWords]),
    word (i := data1Word n) (by simp [bufferWords])]

namespace Waiting

/-- The lowest armed buffer is next. -/
theorem armedBuffer? (h : Waiting c n frame) :
    c.armedBuffer? = some (if first : (c.ahead n).Nonempty then (c.ahead n).min' first else n) := by
  refine (find?_scanned _).2 ?_
  split
  · next first =>
    obtain ⟨below, armed⟩ := mem_ahead.1 ((c.ahead n).min'_mem first)
    refine ⟨⟨List.mem_range.2 (Nat.lt_trans below (List.mem_range.1 h.scanned)), armed⟩, ?_⟩
    rintro m ⟨-, waits⟩
    by_cases other : m < n
    · exact (c.ahead n).min'_le m (mem_ahead.2 ⟨other, waits⟩)
    · exact Nat.le_trans (Nat.le_of_lt below) (Nat.le_of_not_lt other)
  · next none =>
    refine ⟨⟨h.scanned, h.armed⟩, ?_⟩
    rintro m ⟨-, waits⟩
    exact Nat.le_of_not_lt fun below => none ⟨m, mem_ahead.2 ⟨below, waits⟩⟩

theorem departed (h : Waiting c n frame) (first : c.ahead n = ∅) (nanos : Nat) :
    Departed c (c.advance nanos).1 n := by
  refine departed_of_armed h.mode h.inbox ?_ nanos
  rw [h.armedBuffer?, dif_neg (by simp [first])]

/-- A step that sends another buffer leaves one less ahead of this one. -/
theorem step (h : Waiting c n frame) (queued : (c.ahead n).Nonempty) (nanos : Nat) :
    ∃ m ∈ c.ahead n, Departed c (c.advance nanos).1 m ∧ Waiting (c.advance nanos).1 n frame ∧
      (c.advance nanos).1.ahead n = (c.ahead n).erase m := by
  have next := h.armedBuffer?
  rw [dif_pos queued] at next
  have mem := (c.ahead n).min'_mem queued
  generalize (c.ahead n).min' queued = m at next mem
  have departed := departed_of_armed h.mode h.inbox next nanos
  generalize (c.advance nanos).1 = d at departed
  have below := (mem_ahead.1 mem).1
  have armed (k : Nat) (other : k ≠ m) : armedIn d.regs k = armedIn c.regs k := by
    have apart : csWord k ≠ csWord m := by
      unfold csWord
      omega
    have later : iflag1 < csWord k := by
      unfold iflag1 csWord
      omega
    rw [Controller.armedIn, departed.word _ later apart, Controller.armedIn]
  refine ⟨m, mem, departed, ⟨departed.mode, departed.inbox, ?_, ?_, ?_⟩, ?_⟩
  · rw [Controller.scanned, and_eq_of_config departed.config (by decide)]
    exact h.scanned
  · rw [armed n (Nat.ne_of_gt below)]
    exact h.armed
  · refine (frameOf_congr fun i own => departed.word i (lt_of_mem_bufferWords own) ?_).trans h.holds
    have := mem_bufferWords.1 own
    unfold csWord
    omega
  · ext k
    rw [mem_ahead, Finset.mem_erase, mem_ahead]
    by_cases same : k = m
    · simp [same, departed.disarmed]
    · simp [same, armed k same]

/-- After as many steps as buffers are ahead of it, a buffer is next. -/
theorem turn (h : Waiting c n frame) (steps : List Nat)
    (enough : steps.length = (c.ahead n).card) :
    Waiting (c.after (steps.map .advance)) n frame ∧ (c.after (steps.map .advance)).ahead n = ∅ ∧
      (c.after (steps.map .advance)).outbox.length = c.outbox.length + steps.length := by
  induction steps generalizing c with
  | nil => exact ⟨h, Finset.card_eq_zero.1 enough.symm, rfl⟩
  | cons nanos rest ih =>
    have queued : (c.ahead n).Nonempty := Finset.card_pos.1 (enough ▸ Nat.succ_pos _)
    obtain ⟨m, mem, departed, waiting, left⟩ := h.step queued nanos
    have one : rest.length = ((c.advance nanos).1.ahead n).card := by
      rw [left, Finset.card_erase_of_mem mem, ← enough]
      rfl
    obtain ⟨waiting, none, sent⟩ := ih waiting one
    refine ⟨waiting, none, sent.trans ?_⟩
    rw [departed.outbox, List.length_append, List.length_singleton, List.length_cons]
    omega

end Waiting

end BoardSim.Can.Controller
