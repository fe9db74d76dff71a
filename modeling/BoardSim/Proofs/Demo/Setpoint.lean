import BoardSim.Proofs.Demo.Sampling

/-!
# The setpoint of the demo follows the bus

The demo firmware on the growth chamber, with any frames put on CAN bus 0 before each tick. Once the
controller is idle it takes one frame in each tick, in the order in which the frames were put on the
bus, and at the end of the tick the setpoint of firmware is that of the last setpoint frame taken.
The account is the one of the `Pipeline`, read back from the simulator.
-/

namespace BoardSim.Demo

open Can

-- ---------------------------------------------------------------------------
-- Setpoint frames
-- ---------------------------------------------------------------------------

/-- A data frame in the standard format whose identifier names the setpoint, as far as the eleven
bits of a standard identifier go. -/
structure IsSetpoint (frame : Frame) : Prop where
  standard : frame.extended = false
  data : frame.remote = false
  identifier : frame.id.toNat % 0x800 = 0x100

instance (frame : Frame) : Decidable (IsSetpoint frame) :=
  decidable_of_iff
    (frame.extended = false ∧ frame.remote = false ∧ frame.id.toNat % 0x800 = 0x100)
    ⟨fun ⟨standard, data, identifier⟩ => ⟨standard, data, identifier⟩,
      fun ⟨standard, data, identifier⟩ => ⟨standard, data, identifier⟩⟩

def bigEndian (frame : Frame) : Nat :=
  (frame.data.get 0).toNat * 256 + (frame.data.get 1).toNat

def lastSetpoint (frames : List Frame) : Nat :=
  ((frames.filter (IsSetpoint ·)).getLast?.map bigEndian).getD 0

theorem toNat_and_standardIdMask (id : UInt32) : (id &&& standardIdMask).toNat = id.toNat % 0x800 :=
  Nat.and_two_pow_sub_one_eq_mod id.toNat 11

theorem bringsSetpoint_eq_true {frame : Frame} :
    bringsSetpoint frame = true ↔ IsSetpoint frame := by
  have matching : frame.id &&& standardIdMask = setpointId ↔ frame.id.toNat % 0x800 = 0x100 := by
    rw [← toNat_and_standardIdMask, ← UInt32.toNat_inj]
    rfl
  unfold bringsSetpoint
  simp only [Bool.and_eq_true, Bool.not_eq_true', beq_iff_eq, matching]
  constructor
  · rintro ⟨⟨standard, data⟩, identifier⟩
    exact ⟨standard, data, identifier⟩
  · rintro ⟨standard, data, identifier⟩
    exact ⟨⟨standard, data⟩, identifier⟩

theorem toNat_ofBytes_shiftRight (a b c d : UInt8) :
    (Word.ofBytes a b c d >>> 16).toNat = a.toNat * 256 + b.toNat := by
  have first := congrArg UInt8.toNat (Word.first_ofBytes a b c d)
  have second := congrArg UInt8.toNat (Word.second_ofBytes a b c d)
  have below := (Word.ofBytes a b c d).toNat_lt
  simp [Nat.shiftRight_eq_div_pow] at first second ⊢
  omega

theorem toNat_setpointOf (frame : Frame) : (setpointOf frame).toNat = bigEndian frame :=
  toNat_ofBytes_shiftRight _ _ _ _

-- ---------------------------------------------------------------------------
-- The pipeline's account
-- ---------------------------------------------------------------------------

namespace Pipeline

theorem toNat_setpoint (p : Pipeline) : p.setpoint.toNat = lastSetpoint p.taken := by
  have same : p.taken.filter bringsSetpoint = p.taken.filter (IsSetpoint ·) :=
    List.filter_congr fun frame _ => by
      rw [Bool.eq_iff_iff, bringsSetpoint_eq_true, decide_eq_true_eq]
  unfold setpoint lastSetpoint
  rw [same]
  cases (p.taken.filter (IsSetpoint ·)).getLast? with
  | none => rfl
  | some frame => exact toNat_setpointOf frame

/-- How many frames a tick takes from the bus, if there are as many. -/
def share (p : Pipeline) : Nat := if p.ticks = 0 then 0 else 1

theorem sample_traffic (p : Pipeline) :
    p.sample.taken = p.taken ∧ p.sample.waiting = p.waiting := by
  unfold sample
  split <;> exact ⟨rfl, rfl⟩

/-- A tick takes the oldest frame on the bus once the controller has left its freeze mode. -/
theorem tick_traffic (p : Pipeline) :
    p.tick.taken = p.taken ++ p.waiting.take p.share ∧
      p.tick.waiting = p.waiting.drop p.share := by
  show p.exchange.sample.taken = _ ∧ p.exchange.sample.waiting = _
  rw [p.exchange.sample_traffic.1, p.exchange.sample_traffic.2]
  unfold exchange share
  split
  · simp
  · split
    · next arrived => simp [arrived]
    · next empty => split <;> simp [empty]

/-- No frame is lost on the way and none overtakes another. -/
theorem flatten_run (schedule : List (List Frame)) :
    (run schedule).taken ++ (run schedule).waiting = schedule.flatten := by
  have fold (p : Pipeline) : (schedule.foldl step p).taken ++ (schedule.foldl step p).waiting =
      p.taken ++ p.waiting ++ schedule.flatten := by
    induction schedule generalizing p with
    | nil => simp
    | cons frames rest ih =>
      obtain ⟨taken, waiting⟩ := (p.inject frames).tick_traffic
      have kept : (p.step frames).taken ++ (p.step frames).waiting =
          p.taken ++ (p.waiting ++ frames) := by
        rw [step, taken, waiting, List.append_assoc, List.take_append_drop]
        rfl
      rw [List.foldl_cons, ih, kept]
      simp
  exact fold {}

end Pipeline

-- ---------------------------------------------------------------------------
-- The receiving buffer
-- ---------------------------------------------------------------------------

namespace Mail

variable {c : Can.Controller} {level : UInt16} {armed : Bool}

theorem mailbox? (h : Mail c.regs level armed 0) :
    ∃ buffer, c.mailbox? 0 = some buffer ∧ buffer.code = Code.rxEmpty ∧
      buffer.id = Word.standardId 0x100 := by
  have first : 0 < bufferCount := by decide
  have code : c.code 0 = Code.rxEmpty := by
    rw [h.code_eq (by decide)]
    rfl
  have wanted : c.regs.get (Controller.idWord 0) = Word.standardId 0x100 := h.wanted
  simp only [Controller.mailbox?, if_pos first, Option.some.injEq, exists_eq_left']
  exact ⟨code, wanted⟩

theorem admits (h : Mail c.regs level armed 0) {frame : Frame} (asks : IsSetpoint frame) :
    c.chooseBuffer frame = some (0, false) := by
  obtain ⟨⟨standard, -⟩, identifier⟩ :
      ((!frame.extended) = true ∧ (!frame.remote) = true) ∧
        (frame.id &&& standardIdMask == setpointId) = true := by
    simpa [bringsSetpoint] using bringsSetpoint_eq_true.2 asks
  rw [h.chooseBuffer, standard, identifier]
  rfl

end Mail

-- ---------------------------------------------------------------------------
-- The simulator's account
-- ---------------------------------------------------------------------------

def carrier? (s : Simulator Stats) : Option Can.Controller :=
  (s.bus.onCanBus? 0 fun c => (c, c)).map (·.1)

theorem Tracks.carrier? {level : UInt16} {p : Pipeline} {s : Simulator Stats}
    (h : Tracks level p s) :
    ∃ c, carrier? s = some c ∧ Carrier level p 0 (if p.ticks = 0 then .init else .idle) c ∧
      s.memory.setpoint = p.setpoint := by
  obtain ⟨c, m, same, rested⟩ := h.devices
  have here : s.bus = c.on s.bus := congrArg Simulator.bus same
  have memory : s.memory = m := congrArg Simulator.memory same
  refine ⟨c.can1, ?_, rested.station.carrier, memory ▸ rested.account.setpoint⟩
  rw [Demo.carrier?, here, Chamber.onCanBus?_zero rested.station.carrier.bus]
  rfl

/-- What the demo promises of the simulator that a schedule of frames leads to, one list of frames
before each tick, and of the controller on CAN bus 0. -/
structure SetpointContract (schedule : List (List Frame)) (s : Simulator Stats)
    (c : Can.Controller) : Prop where
  ticks : s.tick = UInt64.ofNat schedule.length ∧ s.stuck = false
  controller : carrier? s = some c
  follows : ∃ taken, schedule.flatten = taken ++ c.inbox ∧
    s.memory.setpoint.toNat = lastSetpoint taken
  mode : c.mode = if schedule = [] then .init else .idle
  /-- Each tick takes one frame once the controller is idle. -/
  rate : ∀ frames, ∃ c', carrier? (tickAfter s frames) = some c' ∧
    c'.inbox = (c.inbox ++ frames).drop (if c.mode = .idle then 1 else 0)
  mailbox : ∃ buffer, c.mailbox? 0 = some buffer ∧ buffer.code = Code.rxEmpty ∧
    buffer.id = Word.standardId 0x100
  admits : ∀ frame, IsSetpoint frame → c.chooseBuffer frame = some (0, false)

/-- With any options of the command the demo firmware comes up, and from there on its setpoint
follows the bus. -/
theorem boot_setpointContract (o : Command.Options) :
    ∃ s, boot o = .ok s ∧ s.memory.ready = true ∧ s.tick = 0 ∧
      ∀ schedule, ∃ c, SetpointContract schedule (drive s schedule) c := by
  obtain ⟨s, booted, tracks⟩ := boot_tracks o
  have ready : s.memory.ready = true := by
    obtain ⟨c, m, same, rested⟩ := tracks.devices
    rw [same]
    exact rested.account.ready
  refine ⟨s, booted, ready, tracks.tick, fun schedule => ?_⟩
  have follows := tracks.drive (fits_and o.probe) schedule
  have ticks := Pipeline.ticks_run schedule
  obtain ⟨c, controller, carrier, setpoint⟩ := follows.carrier?
  have first : (Pipeline.run schedule).ticks = 0 ↔ schedule = [] := by
    rw [ticks, List.length_eq_zero_iff]
  refine ⟨c, ⟨by rw [follows.tick, ticks], follows.live.stuck⟩, controller,
    ⟨(Pipeline.run schedule).taken, ?_, ?_⟩, ?_, fun frames => ?_, ?_, fun frame asks => ?_⟩
  · rw [carrier.inbox, Pipeline.flatten_run]
  · rw [setpoint, Pipeline.toNat_setpoint]
  · simp only [carrier.mode, first]
  · obtain ⟨c', next, carrier', -⟩ := (follows.tickAfter (fits_and o.probe) frames).carrier?
    have idle : (if c.mode = .idle then 1 else 0) = (Pipeline.run schedule).share := by
      rw [carrier.mode, Pipeline.share]
      split <;> rfl
    refine ⟨c', next, ?_⟩
    rw [carrier'.inbox, carrier.inbox, idle]
    exact ((Pipeline.run schedule).inject frames).tick_traffic.2
  · exact carrier.mail.mailbox?
  · exact carrier.mail.admits asks

end BoardSim.Demo
