import BoardSim.Proofs.Demo.Boot

/-!
# The demo samples and publishes

The demo firmware on the growth chamber, from its start through any number of ticks with any frames
put on the bus before each: one sample every hundred ticks, each of them the reading of the probe,
and on the bus nothing but samples, one frame for each that firmware counts as published.
`Tracks` ties the simulator to a `Pipeline` from tick to tick, and the account of the pipeline gives
`boot_samplingContract`.
-/

namespace BoardSim.Demo

def transmitted (s : Simulator Stats) : List Can.Frame :=
  ((s.bus.onCanBus? 0 (·.collectAll)).map (·.1)).getD []

def tickAfter (s : Simulator Stats) (frames : List Can.Frame) : Simulator Stats :=
  ({ s with bus := Command.injectAll s.bus 0 frames }).step.2

def drive (s : Simulator Stats) (schedule : List (List Can.Frame)) : Simulator Stats :=
  schedule.foldl tickAfter s

-- ---------------------------------------------------------------------------
-- The simulator follows the pipeline
-- ---------------------------------------------------------------------------

theorem foldl_inject (c : Can.Controller) (frames : List Can.Frame) :
    frames.foldl (·.inject ·) c = { c with inbox := c.inbox ++ frames } := by
  induction frames generalizing c with
  | nil => rw [List.foldl_nil, List.append_nil]
  | cons frame rest ih =>
    rw [List.foldl_cons, ih, Can.Controller.inject]
    simp

namespace Tracks

variable {level : UInt16} {p : Pipeline} {s : Simulator Stats}

theorem inject (h : Tracks level p s) (frames : List Can.Frame) :
    Tracks level (p.inject frames) { s with bus := Command.injectAll s.bus 0 frames } := by
  obtain ⟨⟨c, m, same, rested⟩, lines, live, waiting, tick⟩ := h
  obtain ⟨⟨paces, converts, carrier, ready⟩, account⟩ := rested
  let c' : Chamber := { c with can1 := { c.can1 with inbox := c.can1.inbox ++ frames } }
  have bus : Command.injectAll s.bus 0 frames = c'.on s.bus := by
    have here : s.bus = c.on s.bus := congrArg Simulator.bus same
    rw [Command.injectAll, here, Chamber.onCanBus?_zero carrier.bus, foldl_inject]
    rfl
  have memory : s.memory = m := congrArg Simulator.memory same
  rw [bus]
  refine ⟨⟨c', m, ?_, ⟨⟨paces, converts, { carrier with inbox := ?_ }, ready⟩, { account with }⟩⟩,
    lines, { live with }, waiting, tick⟩
  · rw [← memory]
    rfl
  · show c.can1.inbox ++ frames = p.waiting ++ frames
    rw [carrier.inbox]

theorem tickAfter (h : Tracks level p s) (fits : level.toUInt32 &&& 0xFFF = level.toUInt32)
    (frames : List Can.Frame) : Tracks level (p.step frames) (tickAfter s frames) :=
  (h.inject frames).step fits

theorem drive (h : Tracks level {} s) (fits : level.toUInt32 &&& 0xFFF = level.toUInt32)
    (schedule : List (List Can.Frame)) :
    Tracks level (Pipeline.run schedule) (drive s schedule) := by
  unfold Pipeline.run Demo.drive
  generalize ({} : Pipeline) = p at h
  induction schedule generalizing p s with
  | nil => exact h
  | cons frames rest ih => exact ih _ (h.tickAfter fits frames)

theorem transmitted_eq (h : Tracks level p s) :
    transmitted s = List.replicate p.sent (sampleFrame level) := by
  obtain ⟨c, m, same, rested⟩ := h.devices
  have here : s.bus = c.on s.bus := congrArg Simulator.bus same
  rw [transmitted, here, Chamber.onCanBus?_zero rested.station.carrier.bus]
  exact rested.station.carrier.outbox

end Tracks

-- ---------------------------------------------------------------------------
-- The contract
-- ---------------------------------------------------------------------------

section
variable (probe : UInt16)

theorem toNat_level : (probe &&& 0xFFF).toUInt32.toNat = probe.toNat % 4096 := by
  rw [UInt16.toNat_toUInt32, UInt16.toNat_and]
  exact Nat.and_two_pow_sub_one_eq_mod probe.toNat 12

theorem fits_and : (probe &&& 0xFFF).toUInt32 &&& 0xFFF = (probe &&& 0xFFF).toUInt32 := by
  apply UInt32.toNat_inj.1
  rw [UInt32.toNat_and, toNat_level]
  exact (Nat.and_two_pow_sub_one_eq_mod _ 12).trans (Nat.mod_mod _ _)

theorem payload_sampleFrame :
    (sampleFrame (probe &&& 0xFFF)).payload =
      [UInt8.ofNat (probe.toNat % 4096 / 256), UInt8.ofNat (probe.toNat % 4096 % 256)] := by
  have value : (probe &&& 0xFFF).toNat = probe.toNat % 4096 := toNat_level probe
  have payload (a b : UInt8) : (Can.Frame.standard sampleId [a, b]).payload = [a, b] := by
    rfl
  rw [sampleFrame, payload]
  congr 2
  · apply UInt8.toNat_inj.1
    rw [UInt16.toNat_toUInt8, UInt16.toNat_shiftRight, value]
    simp [Nat.shiftRight_eq_div_pow]
  · apply UInt8.toNat_inj.1
    rw [UInt16.toNat_toUInt8, value]
    simp

end

/-- What the demo promises of the simulator that a schedule of frames leads to, one list of frames
before each tick. Counters of firmware have 64 bits. -/
structure SamplingContract (probe : UInt16) (schedule : List (List Can.Frame))
    (s : Simulator Stats) : Prop where
  ticks : s.tick = UInt64.ofNat schedule.length ∧ s.stuck = false
  samples : s.memory.samples = UInt64.ofNat ((schedule.length - 1) / 100)
  /-- As this holds after every tick, it holds of every sample. -/
  reading : 0 < (schedule.length - 1) / 100 → s.memory.lastSample.toNat = probe.toNat % 4096
  published : s.memory.published = UInt64.ofNat (transmitted s).length
  bounded : (transmitted s).length ≤ (schedule.length - 1) / 100
  frames : ∀ frame ∈ transmitted s,
    frame.extended = false ∧ frame.remote = false ∧ frame.id = 0x200 ∧ frame.dlc = 2 ∧
      frame.payload =
        [UInt8.ofNat (probe.toNat % 4096 / 256), UInt8.ofNat (probe.toNat % 4096 % 256)]
  undisturbed : (∀ frames ∈ schedule, frames = []) →
    (transmitted s).length = (schedule.length - 2) / 100

/-- With any options of the command the demo firmware comes up, and from there on it samples and
publishes, whatever is put on the bus. -/
theorem boot_samplingContract (o : Command.Options) :
    ∃ s, boot o = .ok s ∧ s.memory.ready = true ∧ s.tick = 0 ∧
      ∀ schedule, SamplingContract o.probe schedule (drive s schedule) := by
  obtain ⟨s, booted, tracks⟩ := boot_tracks o
  have ready : s.memory.ready = true := by
    obtain ⟨c, m, same, rested⟩ := tracks.devices
    rw [same]
    exact rested.account.ready
  refine ⟨s, booted, ready, tracks.tick, fun schedule => ?_⟩
  have follows := tracks.drive (fits_and o.probe) schedule
  have counted := Pipeline.counted_run schedule
  have ticks := Pipeline.ticks_run schedule
  obtain ⟨c, m, same, rested⟩ := follows.devices
  have memory : (drive s schedule).memory = m := congrArg Simulator.memory same
  obtain ⟨samples, lastSample, -, published, -⟩ := rested.account
  rw [← memory] at samples lastSample published
  have taken := counted.samples
  rw [ticks, Pipeline.period] at taken
  rw [taken] at samples lastSample
  have frames := follows.transmitted_eq
  have count : (transmitted (drive s schedule)).length = (Pipeline.run schedule).sent := by
    rw [frames, List.length_replicate]
  refine ⟨⟨by rw [follows.tick, ticks], follows.live.stuck⟩, samples, fun some => ?_, ?_, ?_,
    fun frame mem => ?_, fun silent => ?_⟩
  · rw [lastSample some, toNat_level]
  · rw [published, count]
  · have := counted.sent
    omega
  · rw [frames] at mem
    rw [List.eq_of_mem_replicate mem]
    exact ⟨rfl, rfl, rfl, rfl, payload_sampleFrame o.probe⟩
  · rw [count, (Pipeline.undisturbed_run silent).sent, ticks, Pipeline.period]

end BoardSim.Demo
