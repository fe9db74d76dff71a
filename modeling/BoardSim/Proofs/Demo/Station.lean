import BoardSim.Proofs.Demo.Carrier
import BoardSim.Proofs.Demo.Clocked
import BoardSim.Proofs.Demo.Console

/-!
# The devices and the handlers of the demo

`Station` says what the devices hold at some point of a tick, `Phase` what has happened in the tick
and not been handled. A step of simulated time leads from the phase in which a tick finds the
devices to the one in which it leaves them to the handlers. Each handler ends, handles one thing of
the phase and leaves the rest of the station as it is.
-/

namespace BoardSim.Demo

open MonadCall Programs

-- ---------------------------------------------------------------------------
-- Message buffers
-- ---------------------------------------------------------------------------

theorem get_can1 (c : Chamber) : Place.can1.get c = c.can1 := rfl

theorem set_can1 (c : Chamber) (can1 : Can.Controller) :
    Place.can1.set c can1 = { c with can1 } := rfl

theorem fetch_can1 (c : Can.Controller) (i : Nat) : Peripheral.fetch c i = (c.regs.get i, c) := rfl

section
variable {m : Type → Type} [Monad m] [MonadCall Stats m] [Programs Stats m]
  {s : Simulator Stats} (alive : s.stuck = false) {address : UInt64} {i : Nat}
include alive

theorem ends_readBuffer (h : Place.can1.registerAt? address = some i) (c : Chamber)
    (memory : Stats) :
    Ends (readWord address : m UInt32) (holding s c memory) (c.can1.regs.get i)
      (holding s c memory) := by
  have read := Place.ends_readWord (m := m) alive h c memory
  simp only [fetch_can1, get_can1, set_can1] at read
  exact read

theorem ends_writeBuffer (h : Place.can1.registerAt? address = some i)
    (plain : i ∈ Mail.plainWords) (c : Chamber) (memory : Stats) (word : UInt32) :
    Ends (writeWord address word : m Unit) (holding s c memory) ()
      (holding s { c with can1 := { c.can1 with regs := c.can1.regs.set i word } } memory) := by
  have written := Place.ends_writeWord (m := m) alive h c memory word
  simp only [get_can1, set_can1] at written
  rwa [← Mail.commit_eq_set plain]

theorem ends_updateMemory (c : Chamber) (memory : Stats) (f : Stats → Stats) :
    Ends (call (.update f) : m Unit) (holding s c memory) () (holding s c (f memory)) :=
  ends_update (s := holding s c memory) alive f

end

-- ---------------------------------------------------------------------------
-- In the course of a tick
-- ---------------------------------------------------------------------------

structure Phase where
  count : Nat
  fired : Bool := false
  busy : Bool := false
  /-- What the CAN handler has not seen. -/
  flags : UInt32 := 0
  mode : Can.Mode := .idle

namespace Pipeline

def rest (p : Pipeline) : Phase where
  count := p.ticks % period
  busy := p.converting
  mode := if p.ticks = 0 then .init else .idle

def fires (p : Pipeline) : Bool := p.ticks % period + 1 == period

def moved (p : Pipeline) : Phase where
  count := (p.ticks + 1) % period
  fired := p.fires
  flags := p.flags

end Pipeline

/-- Every device is where the pipeline and the phase of the tick say. -/
structure Station (level : UInt16) (p : Pipeline) (phase : Phase) (c : Chamber) : Prop where
  paces : Paces c.tim2 phase.count phase.fired
  converts : Converts c.adc1 level phase.busy
  carrier : Carrier level p phase.flags phase.mode c.can1
  ready : Ready c.usart1

namespace Station

variable {level : UInt16} {p : Pipeline} {phase : Phase} {c : Chamber}

-- ---------------------------------------------------------------------------
-- Simulated time
-- ---------------------------------------------------------------------------

def arrived (c : Chamber) : UInt32 := c.can1.regs.get (Can.Controller.data0Word rxBuffer)

structure Asks (level : UInt16) (p : Pipeline) (c : Chamber) : Prop where
  adc : (c.adc1.advance tickNanos).2.irq = p.converting
  can : (c.can1.advance tickNanos).2.irq = (p.flags != 0)
  timer : (c.tim2.advance tickNanos).2.irq = p.fires
  sample : p.converting = true → (c.advance tickNanos).adc1.regs.get Adc.dr = level.toUInt32
  setpoint : p.exchange.setpoint =
    if anySet p.flags rxFlag then arrived (c.advance tickNanos) >>> 16 else p.setpoint

theorem advance (h : Station level p p.rest c) :
    Station level p.exchange p.moved (c.advance tickNanos) ∧ Asks level p c := by
  obtain ⟨⟨mail, bus, mode, inbox, outbox⟩, irq, setpoint⟩ := h.carrier.advance tickNanos
  have below : p.rest.count < 100 := h.paces.counter_lt
  have counts : (p.rest.count + 1) % 100 = p.moved.count := by
    show (p.ticks % 100 + 1) % 100 = (p.ticks + 1) % 100
    omega
  have fires : (p.rest.count + 1 == 100) = p.fires := rfl
  obtain ⟨paces, requests⟩ := h.paces.advance
  rw [counts, fires] at paces
  rw [fires] at requests
  -- the trace of the controller goes to the bus, and nothing here depends on it
  have carrier : Carrier level p.exchange p.flags .idle (c.advance tickNanos).can1 :=
    ⟨mail, bus, mode, inbox, outbox⟩
  have converts := h.converts
  have can : (c.can1.advance tickNanos).2.irq = (p.flags != 0) := irq
  have timer : (c.tim2.advance tickNanos).2.irq = p.fires := by rw [requests]; rfl
  have ready := h.ready.advance tickNanos
  cases converting : p.converting with
  | true =>
    rw [show p.rest.busy = true from converting] at converts
    obtain ⟨converts, sample, asks⟩ := converts.advance_busy
    exact ⟨⟨paces, converts, carrier, ready⟩,
      ⟨by rw [asks, converting]; rfl, can, timer, fun _ => sample, setpoint⟩⟩
  | false =>
    rw [show p.rest.busy = false from converting] at converts
    have idle := converts.advance_idle
    have same : (c.advance tickNanos).adc1 = c.adc1 := by
      show (c.adc1.advance tickNanos).1 = c.adc1
      rw [idle]
    exact ⟨⟨paces, same ▸ converts, carrier, ready⟩,
      ⟨by rw [idle, converting]; rfl, can, timer, by simp [converting], setpoint⟩⟩

-- ---------------------------------------------------------------------------
-- Handlers
-- ---------------------------------------------------------------------------

/-- The station after the registers of the CAN controller have changed. -/
theorem withMail (h : Station level p phase c) {regs : RegisterFile Can.Controller.layout}
    {armed : Bool} {flags : UInt32} (mail : Mail regs level armed flags) :
    Station level { p with armed } { phase with flags }
      { c with can1 := { c.can1 with regs } } :=
  { h with carrier := { h.carrier with mail } }

section
variable {s : Simulator Stats} (alive : s.stuck = false) (m : Stats)
include alive

theorem timerHandler (h : Station level p phase c) (idle : phase.busy = false) (line : UInt32)
    (tick : UInt64) :
    ∃ c', Ends (chamberLayout.timerHandler line tick) (holding s c m) () (holding s c' m) ∧
      Station level p { phase with fired := false, busy := true } c' := by
  obtain ⟨-, -, sr, -, -⟩ := tim2_registers
  obtain ⟨-, cr2, -, -⟩ := adc1_registers
  have converts := h.converts
  rw [idle] at converts
  refine ⟨_, ends_bind (Place.ends_writeWord alive sr c m _)
    (Place.ends_writeWord alive cr2 _ m _), { h with
      paces := h.paces.acknowledge
      converts := converts.start }⟩

/-- A sample that finds its buffer taken is only counted: the one in the buffer is the same. -/
theorem publish (h : Station level p phase c) :
    ∃ c', Ends (chamberLayout.publish level.toUInt32) (holding s c m) () (holding s c' m) ∧
      Station level { p with armed := true } phase c' ∧ arrived c' = arrived c := by
  obtain ⟨cs, id, data⟩ := txBuffer_registers
  have reads := ends_readBuffer (m := Isr Stats) alive cs c m
  unfold Layout.publish
  cases armed : p.armed with
  | false =>
    have vacant := h.carrier.mail.vacant armed
    refine ⟨_, ends_bind reads ?_, h.withMail h.carrier.mail.publish, ?_⟩
    · rw [if_pos vacant]
      exact ends_bind (ends_writeBuffer alive id (by decide) c m _)
        (ends_bind (ends_writeBuffer alive data (by decide) _ m _)
          (ends_writeBuffer alive cs (by decide) _ m _))
    · unfold arrived
      rw [RegisterFile.get_set_ne _ (by decide), RegisterFile.get_set_ne _ (by decide),
        RegisterFile.get_set_ne _ (by decide)]
  | true =>
    have taken : Can.Word.codeOf (c.can1.regs.get (Can.Controller.csWord txBuffer)) ≠
        Can.Code.txInactive := by
      rw [(h.carrier.mail.outgoing armed).1]
      decide
    have same : { p with armed := true } = p := by rw [← armed]
    rw [same]
    refine ⟨c, ends_bind reads ?_, h, rfl⟩
    rw [if_neg taken]
    exact ends_pure () _

theorem adcHandler (h : Station level p phase c) (fits : level.toUInt32 &&& 0xFFF = level.toUInt32)
    (ended : c.adc1.regs.get Adc.dr = level.toUInt32) (line : UInt32) (tick : UInt64) :
    ∃ c', Ends (chamberLayout.adcHandler line tick) (holding s c m) ()
        (holding s c' { m with lastSample := level.toUInt32, samples := m.samples + 1 }) ∧
      Station level { p with samples := p.samples + 1, armed := true } phase c' ∧
      arrived c' = arrived c := by
  obtain ⟨-, -, -, dr⟩ := adc1_registers
  have reads := Place.ends_readWord (m := Isr Stats) alive dr c m
  have read : Station level { p with samples := p.samples + 1 } phase
      { c with adc1 := (c.adc1.fetch Adc.dr).2 } :=
    ⟨h.paces, h.converts.read, { h.carrier with }, h.ready⟩
  obtain ⟨c', publishes, station, kept⟩ :=
    read.publish alive { m with lastSample := level.toUInt32, samples := m.samples + 1 }
  refine ⟨c', ?_, station, kept⟩
  have word : (Peripheral.fetch (Place.adc1.get c) Adc.dr).1 &&& 0xFFF = level.toUInt32 :=
    (congrArg (· &&& 0xFFF) ended).trans fits
  refine ends_bind reads ?_
  rw [word]
  exact ends_bind (ends_updateMemory alive _ m _) publishes

theorem receiveSetpoint (h : Station level p phase c) :
    ∃ c', Ends (chamberLayout.receiveSetpoint) (holding s c m) () (holding s c' { m with
        setpoint := arrived c >>> 16 }) ∧
      Station level p phase c' ∧
        c'.can1.regs.get (Can.Controller.csWord rxBuffer) = Can.Word.cs Can.Code.rxEmpty 0 := by
  obtain ⟨cs, -, data⟩ := rxBuffer_registers
  exact ⟨_, ends_bind (ends_readBuffer alive data c m)
    (ends_bind (ends_updateMemory alive c m _) (ends_writeBuffer alive cs (by decide) c _ _)),
    h.withMail h.carrier.mail.release, get_set_lt _ (by decide) _⟩

/-- The handler of the controller handles everything that has happened. -/
theorem canHandler (h : Station level p phase c) (line : UInt32) (tick : UInt64) :
    ∃ c', Ends (chamberLayout.canHandler line tick) (holding s c m) () (holding s c' { m with
        setpoint := if anySet phase.flags rxFlag then arrived c >>> 16 else m.setpoint
        published := if anySet phase.flags txFlag then m.published + 1 else m.published }) ∧
      Station level p { phase with flags := 0 } c' := by
  obtain ⟨-, -, -, iflag1⟩ := can1_registers
  have reads := ends_readBuffer (m := Isr Stats) alive iflag1 c m
  rw [h.carrier.mail.pending] at reads
  -- the flags that were read are acknowledged, with the buffer empty again
  have acknowledges {c : Chamber} (station : Station level p phase c) (m : Stats)
      (empty : c.can1.regs.get (Can.Controller.csWord rxBuffer) = Can.Word.cs Can.Code.rxEmpty 0) :
      ∃ c', Ends (do
          if anySet phase.flags txFlag then
            call (.update fun st => { st with published := st.published + 1 })
          writeWord (chamberLayout.canBase + Can.Offset.iflag1) phase.flags : Isr Stats Unit)
        (holding s c m) () (holding s c' { m with
          published := if anySet phase.flags txFlag then m.published + 1 else m.published }) ∧
        Station level p { phase with flags := 0 } c' := by
    have writes (m : Stats) := Place.ends_writeWord (m := Isr Stats) alive iflag1 c m phase.flags
    have commit : Peripheral.commit c.can1 Can.Controller.iflag1 phase.flags =
        { c.can1 with regs := c.can1.regs.store Can.Controller.iflag1 phase.flags } := by
      show Can.Controller.commit _ _ _ = _
      rw [Can.Controller.commit, if_neg (by decide)]
    simp only [get_can1, set_can1, commit] at writes
    refine ⟨_, ?_, station.withMail (station.carrier.mail.acknowledge empty)⟩
    split
    · exact ends_bind (ends_updateMemory alive c m _) (writes _)
    · exact writes m
  unfold Layout.canHandler
  cases received : anySet phase.flags rxFlag with
  | true =>
    obtain ⟨c', receives, station, empty⟩ := h.receiveSetpoint alive m
    obtain ⟨c'', acknowledges, station⟩ := acknowledges station _ empty
    refine ⟨c'', ends_bind reads ?_, station⟩
    rw [if_pos received]
    exact ends_bind receives acknowledges
  | false =>
    obtain ⟨c', acknowledges, station⟩ := acknowledges h m (h.carrier.mail.empty received)
    refine ⟨c', ends_bind reads ?_, station⟩
    rw [if_neg (by simp [received])]
    exact acknowledges

end

end Station

end BoardSim.Demo
