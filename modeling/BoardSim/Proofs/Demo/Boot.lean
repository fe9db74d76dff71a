import BoardSim.Proofs.Demo.Setup

/-!
# The demo comes up

The built-in board is built and prepared as the command does it, and the demo firmware is started on
it. With any options this succeeds, and the simulator is where an untouched pipeline is.
-/

namespace BoardSim.Demo

open Programs

/-- The simulator of the growth chamber as the command starts the demo firmware on it. -/
def boot (o : Command.Options) : Except Command.Refusal (Simulator Stats) := do
  let (_, layout, s) ← Command.prepare o Board.growthChamber
  (s.start (firmware layout)).mapError .start

-- ---------------------------------------------------------------------------
-- The board
-- ---------------------------------------------------------------------------

def bare : Simulator Stats := .new Board.growthChamber.simulation.toConfig {}

def Chamber.reset : Chamber where
  nvic := { banks := bare.bus.controller.banks }
  systick := .withClock 48000000
  tim2 := .withClock 1000000
  rtc := .withClock Rtc.defaultHz
  adc1 := .withClock Adc.defaultHz
  spi1 := {}
  usart1 := {}
  can1 := { bus := 0 }
  can2 := { bus := 1 }

theorem ofBoard_growthChamber :
    Simulator.ofBoard Board.growthChamber ({} : Stats) = .ok (holding bare .reset {}) := rfl

theorem resolve_growthChamber :
    Layout.resolve (holding bare .reset {}) Board.growthChamber = .ok chamberLayout := rfl

-- ---------------------------------------------------------------------------
-- What the command does before the start
-- ---------------------------------------------------------------------------

namespace Chamber

theorem setProbe_on (c : Chamber) (bus : Bus) (probe : UInt16) :
    Command.setProbe (c.on bus) probe = { c with adc1 := c.adc1.setChannel 0 probe }.on bus := by
  have index : (c.on bus).indexOf? "adc1" = some 4 := by
    unfold Bus.indexOf? Chamber.on Chamber.entries
    rw [List.findIdx?_toArray]
    simp [List.findIdx?_cons]
  rw [Command.setProbe, Bus.onDevice?, index]
  rfl

theorem attachConsole_on (c : Chamber) (bus : Bus) :
    Command.attachConsole (c.on bus) = { c with usart1 := c.usart1.attachSink }.on bus := by
  have index : (c.on bus).indexOf? "usart1" = some 6 := by
    unfold Bus.indexOf? Chamber.on Chamber.entries
    rw [List.findIdx?_toArray]
    simp [List.findIdx?_cons]
  rw [Command.attachConsole, Bus.onDevice?, index]
  rfl

theorem startTrace_on (c : Chamber) (bus : Bus) :
    (c.on bus).startTrace.2 =
      { c with can1 := c.can1.startTrace, can2 := c.can2.startTrace }.on bus := by
  have entries : (c.on bus).startTrace.2.entries =
      { c with can1 := c.can1.startTrace, can2 := c.can2.startTrace : Chamber }.entries := by
    unfold Bus.startTrace Chamber.on Chamber.entries
    rw [List.map_toArray]
    rfl
  exact congrArg (fun entries : Array Entry => { (c.on bus) with entries }) entries

def prepared (o : Command.Options) : Chamber :=
  { reset with
    adc1 := reset.adc1.setChannel 0 o.probe
    usart1 := reset.usart1.attachSink
    can1 := if o.canTrace then reset.can1.startTrace else reset.can1
    can2 := if o.canTrace then reset.can2.startTrace else reset.can2 }

theorem fresh_prepared (o : Command.Options) : Fresh (prepared o) where
  banks := rfl
  tim2 := rfl
  adcRegs := rfl
  adcClock := rfl
  adcIdle := rfl
  console := by
    show anySet ((RegisterFile.reset Uart.layout).get Uart.sr) Uart.txe = true
    decide
  canRegs := by unfold prepared; split <;> rfl
  bus := by unfold prepared; split <;> rfl
  mode := by unfold prepared; split <;> rfl
  inbox := by unfold prepared; split <;> rfl
  outbox := by unfold prepared; split <;> rfl

end Chamber

theorem prepare_growthChamber (o : Command.Options) :
    ∃ s, Command.prepare o Board.growthChamber =
        .ok (0, chamberLayout, holding s (.prepared o) {}) ∧
      s = { bare with observers := s.observers } := by
  have bus : Command.attachConsole (Command.setProbe (if o.canTrace then
      (Chamber.reset.on bare.bus).startTrace.2 else Chamber.reset.on bare.bus) o.probe) =
      (Chamber.prepared o).on bare.bus := by
    unfold Chamber.prepared
    split
    · rw [Chamber.startTrace_on, Chamber.setProbe_on, Chamber.attachConsole_on]
    · rw [Chamber.setProbe_on, Chamber.attachConsole_on]
  refine ⟨(bare.addObserver (.metrics {})).2, ?_, rfl⟩
  unfold Command.prepare
  rw [ofBoard_growthChamber]
  simp only [Except.mapError, bind, Except.bind]
  rw [resolve_growthChamber]
  exact congrArg (fun bus => Except.ok (0, chamberLayout,
    { (holding bare .reset {}).addObserver (.metrics {}) |>.2 with bus })) bus

-- ---------------------------------------------------------------------------
-- The start
-- ---------------------------------------------------------------------------

theorem lines_withLines (n : UInt32) (banks : InterruptController.banksFor n = 8) :
    Lines (.withLines n) [] fun _ => false where
  banks := banks
  enabled line := LineSet.has_empty line
  pending line _ := LineSet.has_empty line

theorem lines_enabledAll {c : InterruptController} (h : Lines c [] fun _ => false) :
    Lines (enabledAll c) served fun _ => false := by
  have enabled := ((h.enable 28 (by decide)).enable 18 (by decide)).enable 20 (by decide)
  refine enabled.congr (fun line => ?_) fun _ _ => rfl
  simp only [served, List.mem_cons, List.not_mem_nil, or_false]
  tauto

theorem handlers_bare : bare.handlers = Array.replicate 256 none := by
  have lines : (InterruptController.withLines 256).lineCount.toNat = 256 := by
    rw [InterruptController.toNat_lineCount]
    rfl
  exact congrArg (Array.replicate · none) lines

theorem handler?_demoHandlers {s : Simulator Stats}
    (h : s.handlers = withHandlers demoHandlers (Array.replicate 256 none)) :
    s.handler? 18 = some chamberLayout.adcHandler ∧
      s.handler? 20 = some chamberLayout.canHandler ∧
        s.handler? 28 = some chamberLayout.timerHandler := by
  unfold Simulator.handler?
  rw [h]
  simp [withHandlers, demoHandlers]

/-- Firmware that is started on fresh devices comes to its first wait. -/
theorem Fresh.start {s : Simulator Stats} {c : Chamber} {level : UInt16} (h : Fresh c)
    (new : s = { bare with observers := s.observers })
    (channel : c.adc1.channel? 0 = some level) :
    ∃ t, (holding s c {}).start (firmware chamberLayout) = .ok t ∧ Tracks level {} t := by
  let s₁ : Simulator Stats := ({ s with running := true, stopping := false }).notify .started
  have alive : s₁.stuck = false := congrArg Simulator.stuck new
  have handlers : s₁.handlers = Array.replicate 256 none :=
    (congrArg Simulator.handlers new).trans handlers_bare
  have lines : Lines s₁.bus.controller [] fun _ => false := by
    show Lines s.bus.controller [] _
    rw [new]
    exact lines_withLines 256 (by decide)
  obtain ⟨c', m, ends, rested⟩ :=
    h.ends_setup alive (by rw [handlers, Array.size_replicate]) channel
  obtain ⟨adc, can, timer⟩ := handler?_demoHandlers (s := { s₁ with
    handlers := withHandlers demoHandlers s₁.handlers }) (by rw [handlers])
  -- the simulator once the set-up is over, and then with the firmware waiting
  let s₂ : Simulator Stats := { s₁ with
    handlers := withHandlers demoHandlers s₁.handlers
    bus := { s₁.bus with controller := enabledAll s₁.bus.controller } }
  let s₃ : Simulator Stats := { s₂ with
    thread := some ⟨chamberLayout.pass, .blocked s₂.awaitDispatch chamberLayout.resumed, true⟩
    stepping := true }
  have idle : (holding s c {}).running = false := congrArg Simulator.running new
  have signal : s₃.signal = none := congrArg Simulator.signal new
  have run : (holding s₁ c {}).runTask chamberLayout.setup chamberLayout.pass =
      (.blocked s₂.awaitDispatch chamberLayout.resumed, holding s₂ c' m) := by
    rw [Simulator.runTask, Task.run_of_ends ends]
    exact runPass_waits (s := holding s₂ c' m) rfl
  have started : (holding s c {}).start (firmware chamberLayout) = .ok (holding s₃ c' m) := by
    rw [start_of_runTask (firmware chamberLayout) idle run]
    exact congrArg Except.ok (serve_of_quiet (s := holding s₃ c' m) signal)
  have pace : s.config.tick = tickNanos := congrArg (·.config.tick) new
  exact ⟨holding s₃ c' m, started, ⟨c', m, rfl, rested⟩, lines_enabledAll lines,
    ⟨pace, adc, can, timer, rfl, alive, signal⟩, ⟨_, _, rfl⟩, congrArg Simulator.tick new⟩

theorem boot_tracks (o : Command.Options) :
    ∃ s, boot o = .ok s ∧ Tracks (o.probe &&& 0xFFF) {} s := by
  obtain ⟨s, prepared, new⟩ := prepare_growthChamber o
  have channel : (Chamber.prepared o).adc1.channel? 0 = some (o.probe &&& 0xFFF) := rfl
  obtain ⟨t, started, tracks⟩ := (Chamber.fresh_prepared o).start new channel
  refine ⟨t, ?_, tracks⟩
  rw [boot, prepared]
  show ((holding s (.prepared o) {}).start (firmware chamberLayout)).mapError
    Command.Refusal.start = _
  rw [started]
  rfl

end BoardSim.Demo
