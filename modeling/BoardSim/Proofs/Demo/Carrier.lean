import BoardSim.Proofs.Demo.Mailbox

/-!
# A step of the demo's CAN controller

Between the ticks the controller holds what the pipeline says: the frames that wait on the bus, the
sample that waits in its buffer and the samples that have been sent. A step of simulated time is one
`Pipeline.exchange`, and it requests the interrupt exactly if it has raised a flag.
-/

namespace BoardSim.Demo

open Can Can.Controller

namespace Pipeline

def flags (p : Pipeline) : UInt32 :=
  if p.ticks = 0 then 0
  else
    match p.waiting with
    | frame :: _ => if bringsSetpoint frame then rxFlag else 0
    | [] => if p.armed then txFlag else 0

theorem anySet_flag : anySet rxFlag rxFlag = true ∧ anySet rxFlag txFlag = false ∧
    anySet txFlag rxFlag = false ∧ anySet txFlag txFlag = true ∧
      anySet 0 rxFlag = false ∧ anySet 0 txFlag = false := by
  decide

theorem sent_exchange (p : Pipeline) :
    p.exchange.sent = if anySet p.flags txFlag then p.sent + 1 else p.sent := by
  obtain ⟨-, rx, -, tx, -, none⟩ := anySet_flag
  unfold exchange flags
  split
  · simp [none]
  · cases p.waiting with
    | cons frame waiting => cases brings : bringsSetpoint frame <;> simp [brings, rx, none]
    | nil => cases armed : p.armed <;> simp [tx, none]

theorem setpoint_take (p : Pipeline) (frame : Frame) (waiting : List Frame) :
    { p with waiting, taken := p.taken ++ [frame] : Pipeline }.setpoint =
      if bringsSetpoint frame then setpointOf frame else p.setpoint := by
  unfold setpoint
  rw [List.filter_append, List.filter_singleton]
  cases bringsSetpoint frame <;> simp

end Pipeline

/-- The controller holds what the pipeline says. -/
structure Carrier (level : UInt16) (p : Pipeline) (flags : UInt32) (mode : Mode)
    (c : Can.Controller) : Prop where
  mail : Mail c.regs level p.armed flags
  bus : c.bus = 0
  mode : c.mode = mode
  inbox : c.inbox = p.waiting
  outbox : c.outbox = List.replicate p.sent (sampleFrame level)

namespace Carrier

variable {level : UInt16} {p : Pipeline} {c : Can.Controller}

structure Exchanges (level : UInt16) (p : Pipeline) (result : Can.Controller × TickResult) :
    Prop where
  carrier : Carrier level p.exchange p.flags .idle result.1
  irq : result.2.irq = (p.flags != 0)
  setpoint : p.exchange.setpoint = if anySet p.flags rxFlag then
    result.1.regs.get (data0Word rxBuffer) >>> 16 else p.setpoint

theorem receives (h : Carrier level p 0 .idle c) (later : p.ticks ≠ 0) {frame : Frame}
    {waiting : List Frame} (arrived : p.waiting = frame :: waiting) :
    Exchanges level p c.exchange := by
  obtain ⟨rx, -, -, -, none, -⟩ := Pipeline.anySet_flag
  have exchange : p.exchange = { p with waiting, taken := p.taken ++ [frame] } := by
    rw [Pipeline.exchange, if_neg later, arrived]
  have flags : p.flags = if bringsSetpoint frame then rxFlag else 0 := by
    rw [Pipeline.flags, if_neg later, arrived]
  have entered : Mail (({ c with inbox := waiting }).enter .rx).regs level p.armed 0 :=
    Mail.of_alike (Alike.enter { c with inbox := waiting } .rx) h.mail
  obtain ⟨regs, trace, received, mail, data⟩ := entered.receive frame
  have left := Alike.enter { (({ c with inbox := waiting }).enter .rx) with regs, trace } .idle
  have stepped : c.exchange = ({ (({ c with inbox := waiting }).enter .rx) with
      regs, trace }.enter .idle, .line (bringsSetpoint frame)) := by
    unfold Can.Controller.exchange
    rw [h.inbox, arrived]
    simp only [received]
  rw [stepped]
  refine ⟨?_, ?_, ?_⟩
  · rw [exchange, flags]
    exact ⟨mail.of_alike left, h.bus, rfl, rfl, h.outbox⟩
  · rw [flags]
    cases bringsSetpoint frame <;> rfl
  · rw [exchange, flags, Pipeline.setpoint_take]
    cases brings : bringsSetpoint frame with
    | false => simp only [Bool.false_eq_true, if_false, none]
    | true =>
      simp only [if_true, rx]
      rw [left.word _ (by decide)]
      exact (data brings).symm

theorem sends (h : Carrier level p 0 .idle c) (later : p.ticks ≠ 0) (empty : p.waiting = [])
    (armed : p.armed = true) : Exchanges level p c.exchange := by
  have exchange : p.exchange = { p with armed := false, sent := p.sent + 1 } := by
    rw [Pipeline.exchange, if_neg later, empty, if_pos armed]
  have flags : p.flags = txFlag := by
    rw [Pipeline.flags, if_neg later, empty, if_pos armed]
  have entered : Mail (c.enter .tx).regs level true 0 :=
    armed ▸ h.mail.of_alike (Alike.enter c .tx)
  obtain ⟨regs, trace, transmitted, mail⟩ := entered.transmit
  have stepped : c.exchange = ({ (c.enter .tx) with
      regs, trace, outbox := c.outbox ++ [sampleFrame level] }.enter .idle, .line true) := by
    unfold Can.Controller.exchange
    rw [h.inbox, empty, h.mail.armedBuffer?, if_pos armed]
    simp only [transmitted]
    rfl
  rw [stepped]
  refine ⟨?_, by rw [flags]; rfl, ?_⟩
  · rw [exchange, flags]
    refine ⟨mail.of_alike (Alike.enter _ .idle), h.bus, rfl, h.inbox, ?_⟩
    show c.outbox ++ [sampleFrame level] = _
    rw [h.outbox, List.replicate_succ']
  · rw [exchange, flags]
    rfl

theorem waits (h : Carrier level p 0 .idle c) (later : p.ticks ≠ 0) (empty : p.waiting = [])
    (armed : p.armed = false) : Exchanges level p c.exchange := by
  have exchange : p.exchange = p := by
    rw [Pipeline.exchange, if_neg later, empty, armed]
    rfl
  have flags : p.flags = 0 := by
    rw [Pipeline.flags, if_neg later, empty, armed]
    rfl
  have stepped : c.exchange = (c, .quiet) := by
    unfold Can.Controller.exchange
    rw [h.inbox, empty, h.mail.armedBuffer?, armed]
    rfl
  rw [stepped]
  exact ⟨by rwa [exchange, flags], by rw [flags]; rfl, by rw [exchange, flags]; rfl⟩

/-- In the first step the controller only leaves its freeze mode. -/
theorem wakes (h : Carrier level p 0 .init c) (first : p.ticks = 0) (nanos : Nat) :
    Exchanges level p (c.advance nanos) := by
  have exchange : p.exchange = p := if_pos first
  have flags : p.flags = 0 := if_pos first
  have ticked := h.mail.of_alike (Alike.ticked c nanos)
  have stepped : c.advance nanos = ((c.ticked nanos).enter .idle, .quiet) := by
    rw [advance_eq, h.mode]
    simp only [ticked.free]
    rfl
  rw [stepped]
  refine ⟨?_, by rw [flags]; rfl, by rw [exchange, flags]; rfl⟩
  rw [exchange, flags]
  exact ⟨ticked.of_alike (Alike.enter _ .idle), h.bus, rfl, h.inbox, h.outbox⟩

theorem advance (h : Carrier level p 0 (if p.ticks = 0 then .init else .idle) c) (nanos : Nat) :
    Exchanges level p (c.advance nanos) := by
  by_cases first : p.ticks = 0
  · rw [if_pos first] at h
    exact h.wakes first nanos
  · rw [if_neg first] at h
    have ticked : Carrier level p 0 .idle (c.ticked nanos) :=
      ⟨h.mail.of_alike (Alike.ticked c nanos), h.bus, h.mode, h.inbox, h.outbox⟩
    rw [advance_eq, h.mode]
    cases waiting : p.waiting with
    | cons frame waiting' => exact ticked.receives first waiting
    | nil =>
      cases armed : p.armed with
      | false => exact ticked.waits first waiting armed
      | true => exact ticked.sends first waiting armed

end Carrier

end BoardSim.Demo
