import BoardSim.Proofs.Demo.Lines
import BoardSim.Proofs.Demo.Station

/-!
# A tick of the demo

A tick moves the devices, lets the handlers of the three lines have their turns and then lets the
firmware run on.
-/

namespace BoardSim.Demo

open MonadCall Programs

/-- What firmware has counted and taken in: the samples, the setpoint and the frames sent. -/
structure Account (level : UInt16) (taken : Nat) (wanted : UInt32) (sent : Nat) (m : Stats) :
    Prop where
  samples : m.samples = UInt64.ofNat taken
  lastSample : 0 < taken → m.lastSample = level.toUInt32
  setpoint : m.setpoint = wanted
  published : m.published = UInt64.ofNat sent
  ready : m.ready = true

structure Live (s : Simulator Stats) : Prop where
  tick : s.config.tick = tickNanos
  adc : s.handler? 18 = some chamberLayout.adcHandler
  can : s.handler? 20 = some chamberLayout.canHandler
  timer : s.handler? 28 = some chamberLayout.timerHandler
  stopping : s.stopping = false
  stuck : s.stuck = false
  signal : s.signal = none

-- ---------------------------------------------------------------------------
-- The turns of the lines
-- ---------------------------------------------------------------------------

structure Amid (s t : Simulator Stats) (pending : UInt32 → Bool) : Prop where
  same : t = { s with observers := t.observers, bus := t.bus }
  lines : Lines t.bus.controller served pending

namespace Amid

variable {s t : Simulator Stats} {pending : UInt32 → Bool} {c c' : Chamber} {m m' : Stats}
  {line : UInt32} {handler : Handler Stats}

theorem consume (h : Amid s t pending) (line : UInt32) :
    Amid s (t.consume line) fun other => pending other && decide (other ≠ line) where
  same := congrArg (fun u : Simulator Stats =>
    { u with observers := (t.consume line).observers, bus := (t.consume line).bus }) h.same
  lines := h.lines.consume line

/-- The turn of a line: what its handler brings about if it is due and what holds already if it is
not. -/
theorem dispatch (h : Amid s t pending) (alive : s.stuck = false) (mem : line ∈ served)
    (found : s.handler? line = some handler) (tick : UInt64) (due : UInt32 → Bool)
    (same : pending line = due line) (post : Chamber → Stats → Prop)
    (serves : due line = true → (t.consume line).stuck = false → ∃ c' m',
      Ends (handler line tick) (holding (t.consume line) c m) () (holding (t.consume line) c' m') ∧
        post c' m')
    (skips : due line = false → post c m) :
    ∃ u c' m', ((holding t c m).dispatchLines tick ([line].filter due)).2 = holding u c' m' ∧
      Amid s u (fun other => pending other && decide (other ≠ line)) ∧ post c' m' := by
  have ready : (holding t c m).bus.controller.isReady line = due line := by
    show t.bus.controller.isReady line = due line
    rw [h.lines.isReady, List.contains_iff_mem.2 mem, Bool.and_true, same]
  have going : t.stuck = false := by
    rw [h.same]
    exact alive
  rw [Simulator.snd_dispatchLines_filter (s := holding t c m) going ready]
  cases turn : due line with
  | true =>
    have handler? : ((holding t c m).consume line).handler? line = some handler := by
      rw [← found, h.same]
      rfl
    obtain ⟨c', m', ends, holds⟩ := serves turn going
    have run := Isr.run_of_ends ends
    refine ⟨t.consume line, c', m', ?_, h.consume line, holds⟩
    rw [if_pos rfl, Simulator.runHandler_of_some handler?]
    show (if ((handler line tick).run (holding (t.consume line) c m)).1.isNone then _
      else ((handler line tick).run (holding (t.consume line) c m)).2) = _
    rw [run]
    rfl
  | false =>
    refine ⟨t, c, m, rfl, ⟨h.same, h.lines.congr (fun _ => Iff.rfl) fun other _ => ?_⟩, skips turn⟩
    by_cases own : other = line
    · simp [own, same, turn]
    · simp [own]

end Amid

namespace Pipeline

theorem converting_exchange (p : Pipeline) : p.exchange.converting = p.converting := by
  unfold converting
  rw [p.exchange_account.1]

theorem setpoint_sample (p : Pipeline) : p.sample.setpoint = p.setpoint := by
  unfold sample
  split <;> rfl

theorem sent_sample (p : Pipeline) : p.sample.sent = p.sent := by
  unfold sample
  split <;> rfl

theorem rest_tick (p : Pipeline) : p.tick.rest = { p.moved with
    fired := false, busy := p.fires, flags := 0 } := by
  have converting : p.tick.converting = p.fires := by
    have ticks : p.tick.ticks = p.ticks + 1 := rfl
    unfold Pipeline.converting fires period
    rw [ticks, Bool.eq_iff_iff]
    simp
    omega
  unfold rest
  rw [converting]
  rfl

end Pipeline

-- ---------------------------------------------------------------------------
-- One tick
-- ---------------------------------------------------------------------------

section
variable {level : UInt16} {p : Pipeline} {s : Simulator Stats} {c : Chamber} {m : Stats}

structure Rested (level : UInt16) (p : Pipeline) (c : Chamber) (m : Stats) : Prop where
  station : Station level p p.rest c
  account : Account level p.samples p.setpoint p.sent m

/-- After the turn of the converter, in a tick that has found the devices `before`. -/
structure Sampled (level : UInt16) (p : Pipeline) (before c : Chamber) (m : Stats) : Prop where
  station : Station level p.exchange.sample p.moved c
  arrived : Station.arrived c = Station.arrived (before.advance tickNanos)
  account : Account level p.exchange.sample.samples p.setpoint p.sent m

structure Exchanged (level : UInt16) (p : Pipeline) (c : Chamber) (m : Stats) : Prop where
  station : Station level p.exchange.sample { p.moved with flags := 0 } c
  account : Account level p.tick.samples p.tick.setpoint p.tick.sent m

theorem Rested.sampled (h : Rested level p c m) (fits : level.toUInt32 &&& 0xFFF = level.toUInt32)
    (converting : p.converting = true) (alive : s.stuck = false) (line : UInt32) (tick : UInt64) :
    ∃ c' m', Ends (chamberLayout.adcHandler line tick) (holding s (c.advance tickNanos) m) ()
        (holding s c' m') ∧ Sampled level p c c' m' := by
  obtain ⟨moved, asks⟩ := h.station.advance
  obtain ⟨c', ends, station, kept⟩ :=
    moved.adcHandler alive m fits (asks.sample converting) line tick
  have sample : p.exchange.sample =
      { p.exchange with samples := p.exchange.samples + 1, armed := true } := by
    rw [Pipeline.sample, p.converting_exchange, if_pos converting]
  refine ⟨c', _, ends, sample ▸ station, kept, ?_⟩
  obtain ⟨samples, -, setpoint, published, ready⟩ := h.account
  rw [sample]
  refine ⟨?_, fun _ => rfl, setpoint, published, ready⟩
  show m.samples + 1 = UInt64.ofNat (p.exchange.samples + 1)
  rw [samples, p.exchange_account.2.1, UInt64.ofNat_add]
  rfl

theorem Rested.unsampled (h : Rested level p c m) (idle : p.converting = false) :
    Sampled level p c (c.advance tickNanos) m := by
  have sample : p.exchange.sample = p.exchange := by
    rw [Pipeline.sample, p.converting_exchange, idle]
    rfl
  refine ⟨?_, rfl, ?_⟩
  · rw [sample]
    exact h.station.advance.1
  · rw [sample, p.exchange_account.2.1]
    exact h.account

/-- What the CAN handler counts and takes in. -/
theorem Sampled.account_tick {before : Chamber} (h : Sampled level p before c m)
    (asks : Station.Asks level p before) :
    Account level p.tick.samples p.tick.setpoint p.tick.sent { m with
      setpoint := if anySet p.flags rxFlag then Station.arrived c >>> 16 else m.setpoint
      published := if anySet p.flags txFlag then m.published + 1 else m.published } := by
  obtain ⟨samples, lastSample, setpoint, published, ready⟩ := h.account
  refine ⟨samples, lastSample, ?_, ?_, ready⟩
  · show _ = p.exchange.sample.setpoint
    rw [Pipeline.setpoint_sample, asks.setpoint, h.arrived]
    split
    · rfl
    · exact setpoint
  · show _ = UInt64.ofNat p.exchange.sample.sent
    rw [Pipeline.sent_sample, p.sent_exchange]
    show (if anySet p.flags txFlag then m.published + 1 else m.published) = _
    split
    · rw [published, UInt64.ofNat_add]
      rfl
    · exact published

theorem Sampled.exchanged {before : Chamber} (h : Sampled level p before c m)
    (asks : Station.Asks level p before) (alive : s.stuck = false) (line : UInt32)
    (tick : UInt64) :
    ∃ c' m', Ends (chamberLayout.canHandler line tick) (holding s c m) () (holding s c' m') ∧
      Exchanged level p c' m' := by
  obtain ⟨c', ends, station⟩ := h.station.canHandler alive m line tick
  exact ⟨c', _, ends, station, h.account_tick asks⟩

theorem Sampled.unexchanged {before : Chamber} (h : Sampled level p before c m)
    (asks : Station.Asks level p before) (quiet : p.flags = 0) : Exchanged level p c m := by
  have same : { p.moved with flags := 0 } = p.moved := by rw [Pipeline.moved, quiet]
  have account := h.account_tick asks
  rw [quiet] at account
  exact ⟨same ▸ h.station, account⟩

theorem Exchanged.fired (h : Exchanged level p c m) (fires : p.fires = true)
    (alive : s.stuck = false) (line : UInt32) (tick : UInt64) :
    ∃ c' m', Ends (chamberLayout.timerHandler line tick) (holding s c m) () (holding s c' m') ∧
      Rested level p.tick c' m' := by
  obtain ⟨c', ends, station⟩ := h.station.timerHandler alive m rfl line tick
  refine ⟨c', _, ends, ?_, h.account⟩
  rw [p.rest_tick, fires]
  exact ⟨station.paces, station.converts, { station.carrier with }, station.ready⟩

theorem Exchanged.unfired (h : Exchanged level p c m) (quiet : p.fires = false) :
    Rested level p.tick c m := by
  obtain ⟨⟨paces, converts, carrier, ready⟩, account⟩ := h
  refine ⟨?_, account⟩
  rw [p.rest_tick, quiet]
  exact ⟨quiet ▸ paces, converts, { carrier with }, ready⟩

theorem advanceDevices_on (c : Chamber) (bus : Bus) (nanos : Nat) :
    ∃ traffic, ((c.on bus).advanceDevices nanos).2 = (c.advance nanos).on { bus with traffic } := by
  refine ⟨((c.on bus).advanceDevices nanos).2.traffic, ?_⟩
  have entries : ((c.on bus).advanceDevices nanos).2.entries = (c.advance nanos).entries := by
    rw [← Chamber.entries_advance]
    simp [Bus.advanceDevices, Chamber.on]
  exact congrArg (fun entries : Array Entry => { (c.on bus) with
    entries, traffic := ((c.on bus).advanceDevices nanos).2.traffic }) entries

/-- When the dispatch starts, the devices have been moved and what they ask for is pending. -/
theorem updated_holding (live : Live s) (lines : Lines s.bus.controller served fun _ => false) :
    ∃ t, (holding s c m).updated = holding t (c.advance tickNanos) m ∧
      Amid s t fun line => decide (line ∈ c.requested tickNanos) := by
  obtain ⟨observers, updated⟩ := (holding s c m).updated_eq
  obtain ⟨traffic, moved⟩ := advanceDevices_on c s.bus tickNanos
  have nanos : (holding s c m).config.tick = tickNanos := live.tick
  have requested : (holding s c m).requested = c.requested tickNanos := by
    rw [Simulator.requested_eq, nanos]
    rfl
  have bus : ((holding s c m).bus.advanceDevices tickNanos).2 = _ := moved
  rw [nanos, bus, requested] at updated
  refine ⟨{ s with observers, bus := { s.bus with
    traffic, controller := (c.requested tickNanos).foldl (·.latch ·) s.bus.controller } },
    updated, rfl, ?_⟩
  simpa using lines.latchAll (c.requested tickNanos)

/-- The dispatch leaves the devices where the next tick finds them. -/
theorem turn_holding (h : Rested level p c m) (fits : level.toUInt32 &&& 0xFFF = level.toUInt32)
    (live : Live s) (lines : Lines s.bus.controller served fun _ => false) :
    ∃ u c' m', (holding s c m).turn (holding s c m).ready = holding u c' m' ∧
      Amid s u (fun _ => false) ∧ Rested level p.tick c' m' := by
  obtain ⟨t, updated, amid⟩ := updated_holding (c := c) (m := m) live lines
  have asks := h.station.advance.2
  obtain ⟨adc, can, timer⟩ := c.mem_requested tickNanos
  let due (line : UInt32) : Bool := decide (line ∈ c.requested tickNanos)
  have dueAdc : due 18 = p.converting := by
    rw [← asks.adc, Bool.eq_iff_iff, decide_eq_true_iff, adc]
  have dueCan : due 20 = (p.flags != 0) := by
    rw [← asks.can, Bool.eq_iff_iff, decide_eq_true_iff, can]
  have dueTimer : due 28 = p.fires := by
    rw [← asks.timer, Bool.eq_iff_iff, decide_eq_true_iff, timer]
  have ready : (holding s c m).ready =
      [18].filter due ++ ([20].filter due ++ [28].filter due) := by
    rw [Simulator.ready, updated, ← List.filter_append, ← List.filter_append]
    exact amid.lines.readyLines
  obtain ⟨t₁, c₁, m₁, first, amid₁, sampled⟩ := amid.dispatch (c := c.advance tickNanos) (m := m)
    live.stuck (by decide) live.adc (s.tick + 1) due rfl (Sampled level p c)
    (fun turn alive => h.sampled fits (dueAdc ▸ turn) alive _ _)
    (fun turn => h.unsampled (dueAdc ▸ turn))
  obtain ⟨t₂, c₂, m₂, second, amid₂, exchanged⟩ := amid₁.dispatch (c := c₁) (m := m₁)
    live.stuck (by decide) live.can (s.tick + 1) due (by simp [due]) (Exchanged level p)
    (fun _ alive => sampled.exchanged asks alive _ _)
    (fun turn => sampled.unexchanged asks (by simpa [dueCan] using turn))
  obtain ⟨t₃, c₃, m₃, third, amid₃, rested⟩ := amid₂.dispatch (c := c₂) (m := m₂)
    live.stuck (by decide) live.timer (s.tick + 1) due (by simp [due]) (Rested level p.tick)
    (fun turn alive => exchanged.fired (dueTimer ▸ turn) alive _ _)
    (fun turn => exchanged.unfired (dueTimer ▸ turn))
  refine ⟨t₃, c₃, m₃, ?_, ⟨amid₃.same, amid₃.lines.congr (fun _ => Iff.rfl) ?_⟩, rested⟩
  · have tick : (holding s c m).tick = s.tick := rfl
    rw [Simulator.turn, ready, Simulator.dispatchLines_append, Simulator.dispatchLines_append,
      updated]
    simp only [tick]
    rw [first, second, third]
  · simp [served]

end

end BoardSim.Demo
