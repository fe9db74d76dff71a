import BoardSim.Proofs.Demo.Thread

/-!
# The set-up of the demo

Firmware that starts on devices as they come out of reset runs through its set-up without blocking.
It leaves every device of the pipeline where the first tick finds it, the three handlers installed
and their lines enabled.
-/

namespace BoardSim.Demo

open MonadCall Programs

/-- The devices as the board comes up, but for the console and what the host has set. -/
structure Fresh (c : Chamber) : Prop where
  banks : c.nvic.banks = 8
  tim2 : c.tim2 = .withClock 1000000
  adcRegs : c.adc1.regs = .reset _
  adcClock : c.adc1.clock = megahertz
  adcIdle : c.adc1.converting = false
  console : Ready c.usart1
  canRegs : c.can1.regs = .reset _
  bus : c.can1.bus = 0
  mode : c.can1.mode = .off
  inbox : c.can1.inbox = []
  outbox : c.can1.outbox = []

-- ---------------------------------------------------------------------------
-- Devices
-- ---------------------------------------------------------------------------

section
variable {s : Simulator Stats} (alive : s.stuck = false) {c : Chamber} (m : Stats)
include alive

theorem ends_setUpConsole (ready : Ready c.usart1) :
    ∃ usart1, Ready usart1 ∧ Ends chamberLayout.setUpConsole (holding s c m) ()
      (holding s { c with usart1 } m) := by
  obtain ⟨-, -, brr, cr1⟩ := usart1_registers
  have rate := Place.ends_writeWord (m := Task Stats) alive brr c m 0x1A1
  have enables := Place.ends_writeWord (m := Task Stats) alive cr1
    { c with usart1 := c.usart1.commit Uart.brr 0x1A1 } m 0x2008
  have ready' := (ready.commit (by decide : Uart.brr ≠ Uart.sr) 0x1A1).commit
    (by decide : Uart.cr1 ≠ Uart.sr) 0x2008
  obtain ⟨usart1, ready, prints⟩ := ends_print alive (c := { c with
    usart1 := (c.usart1.commit Uart.brr 0x1A1).commit Uart.cr1 0x2008 }) ready' m
      "chamber: boot\r\n"
  exact ⟨usart1, ready, ends_bind rate (ends_bind enables prints)⟩

def timedTimer : Timer :=
  (((Timer.withClock 1000000).commit Timer.psc 999).commit Timer.arr 99).commit Timer.dier Timer.uie

def startedTimer : Timer :=
  timedTimer.commit Timer.cr1 (((timedTimer.fetch Timer.cr1).1 &&& ~~~0) ||| Timer.cen)

omit alive in
theorem paces_started : Paces startedTimer 0 false := by
  constructor <;> decide

theorem ends_setUpTimer (fresh : c.tim2 = .withClock 1000000) :
    Ends chamberLayout.setUpTimer (holding s c m) ()
      (holding s { c with tim2 := startedTimer } m) := by
  obtain ⟨cr1, dier, -, psc, arr⟩ := tim2_registers
  have tim2 : c = { c with tim2 := .withClock 1000000 } := by rw [← fresh]
  rw [tim2]
  exact ends_bind (Place.ends_writeWord alive psc _ m _) (ends_bind
    (Place.ends_writeWord alive arr _ m _) (ends_bind (Place.ends_writeWord alive dier _ m _)
      (Place.ends_modifyWord alive cr1 _ m _ _)))

def poweredRegs : RegisterFile Adc.layout :=
  ((((RegisterFile.reset Adc.layout).store Adc.sqr3 0).store Adc.cr1 Adc.eocie).store Adc.cr2
    Adc.adon).clearBits Adc.cr2 Adc.swstart

omit alive in
theorem powered_eq {a : Adc} (fresh : a.regs = .reset _) :
    ((a.commit Adc.sqr3 0).commit Adc.cr1 Adc.eocie).commit Adc.cr2 Adc.adon =
      { a with regs := poweredRegs } := by
  have stays : anySet (((((RegisterFile.reset Adc.layout).store Adc.sqr3 0).store Adc.cr1
      Adc.eocie).store Adc.cr2 Adc.adon).get Adc.cr2) Adc.swstart = false := by decide
  have first : a.commit Adc.sqr3 0 =
      { a with regs := (RegisterFile.reset Adc.layout).store Adc.sqr3 0 } := by
    rw [← fresh]
    rfl
  rw [first]
  unfold Adc.commit
  simp only [if_neg (show ¬Adc.cr1 = Adc.cr2 by decide), if_true, stays, Bool.and_false,
    Bool.false_and, Bool.false_eq_true, if_false]
  rfl

theorem ends_setUpAdc (fresh : c.adc1.regs = .reset _) :
    Ends chamberLayout.setUpAdc (holding s c m) ()
      (holding s { c with adc1 := { c.adc1 with regs := poweredRegs } } m) := by
  obtain ⟨cr1, cr2, sqr3, -⟩ := adc1_registers
  rw [← powered_eq fresh]
  exact ends_bind (Place.ends_writeWord alive sqr3 _ m _) (ends_bind
    (Place.ends_writeWord alive cr1 _ m _) (Place.ends_writeWord alive cr2 _ m _))

omit alive in
theorem converts_powered {a : Adc} {level : UInt16} (channel : a.channel? 0 = some level)
    (clock : a.clock = megahertz) (idle : a.converting = false) :
    Converts { a with regs := poweredRegs } level false where
  interrupt := show poweredRegs.get Adc.cr1 = Adc.eocie by decide
  control := show poweredRegs.get Adc.cr2 = Adc.adon by decide
  sequence := show poweredRegs.get Adc.sqr3 = 0 by decide
  channel := channel
  clock := clock
  converting := idle
  remaining := nofun

open Can Can.Controller in
def openedRegs : RegisterFile Can.Controller.layout :=
  ((((((Controller.configure { bus := 0 } 0x0F).regs.set globalMask (Word.standardId 0x7FF)).set
    (idWord rxBuffer) (Word.standardId setpointId)).set (csWord rxBuffer)
      (Word.cs Code.rxEmpty 0)).set (csWord txBuffer) (Word.cs Code.txInactive 0)).set imask1
        (rxFlag ||| txFlag))

omit alive in
theorem mail_opened (level : UInt16) : Mail openedRegs level false 0 where
  config := by decide +kernel
  filter := by decide +kernel
  unmasked := by decide +kernel
  pending := by decide +kernel
  wanted := by decide +kernel
  empty _ := by decide +kernel
  unused := by decide +kernel
  zeros := by decide +kernel
  vacant _ := by decide +kernel
  outgoing := nofun

omit alive in
theorem configure_fresh {c : Can.Controller} (regs : c.regs = .reset _) (off : c.mode = .off) :
    c.configure 0x0F = { c with
      regs := (Can.Controller.configure { bus := 0 } 0x0F).regs, mode := .init } := by
  obtain ⟨bus, r, mode⟩ := c
  subst regs off
  rfl

theorem ends_setUpCan (regs : c.can1.regs = .reset _) (off : c.can1.mode = .off) :
    Ends chamberLayout.setUpCan (holding s c m) ()
      (holding s { c with can1 := { c.can1 with regs := openedRegs, mode := .init } } m) := by
  obtain ⟨mcr, mask, imask1, -⟩ := can1_registers
  obtain ⟨rxCs, rxId, -⟩ := rxBuffer_registers
  obtain ⟨txCs, -, -⟩ := txBuffer_registers
  have opens := Place.ends_writeWord (m := Task Stats) alive mcr c m 0x0F
  have configured : Peripheral.commit c.can1 Can.Controller.mcr 0x0F = { c.can1 with
      regs := (Can.Controller.configure { bus := 0 } 0x0F).regs, mode := .init } := by
    show Can.Controller.commit _ _ _ = _
    rw [Can.Controller.commit, if_pos rfl, configure_fresh regs off]
  simp only [get_can1, set_can1, configured] at opens
  exact ends_bind opens (ends_bind (ends_writeBuffer alive mask (by decide) _ m _)
    (ends_bind (ends_writeBuffer alive rxId (by decide) _ m _)
      (ends_bind (ends_writeBuffer alive rxCs (by decide) _ m _)
        (ends_bind (ends_writeBuffer alive txCs (by decide) _ m _)
          (ends_writeBuffer alive imask1 (by decide) _ m _)))))

-- ---------------------------------------------------------------------------
-- Interrupts
-- ---------------------------------------------------------------------------

/-- A write of the first register of the view enables one of the first lines. -/
theorem ends_enableLine (banks : c.nvic.banks = 8) (line : UInt32) (low : line / 32 = 0) :
    Ends (chamberLayout.enableLine line) (holding s c m) () (holding { s with
      bus := { s.bus with controller := s.bus.controller.setEnabled line true } } c m) := by
  have address : chamberLayout.enableBase + (line / 32).toUInt64 * 4 = 0xE000E100 := by
    rw [low]
    decide
  have resolved : Chamber.map.resolve 0xE000E100 = some (0, 0) := by decide +kernel
  have first : (InterruptView.layout c.nvic.banks).indexOf? 0 = some 0 := by
    rw [banks]
    decide +kernel
  have decoded : MappedController.decode ⟨c.nvic, s.bus.controller⟩ 0 = (.setEnable, 0) := by
    have offset : ((InterruptView.layout c.nvic.banks)[0]?).map Register.offset = some 0 := by
      rw [banks]
      decide +kernel
    rw [MappedController.decode]
    simp only [offset]
    decide
  have here : (c.on s.bus).entries[0]? = some ⟨"nvic", 0xE000E100, 0x400, none, .view c.nvic⟩ := rfl
  have runs : (c.on s.bus).Runs 0xE000E100 0 ⟨"nvic", 0xE000E100, 0x400, none, .view c.nvic⟩ 0 :=
    Bus.runs_of_resolve resolved here (by decide) first
  have enabled : MappedController.commit ⟨c.nvic, s.bus.controller⟩ 0 (1 <<< (line % 32)) =
      ⟨c.nvic, s.bus.controller.setEnabled line true⟩ := by
    have bank : LineSet.bankOf line = 0 := by
      rw [LineSet.bankOf, low]
      rfl
    rw [MappedController.commit, decoded, InterruptController.setEnabled, if_pos rfl,
      LineSet.insert, bank]
    rfl
  have written : Device.writeRegister (.view c.nvic) s.bus.controller 0 (1 <<< (line % 32)) =
      (.view c.nvic, s.bus.controller.setEnabled line true) :=
    congrArg (fun m : MappedController => (Device.view m.view, m.controller)) enabled
  have access := runs.write (1 <<< (line % 32) : UInt32).toUInt64
  rw [UInt32.toUInt32_toUInt64] at access
  unfold Layout.enableLine
  rw [address]
  have controller : (c.on s.bus).controller = s.bus.controller := rfl
  rw [controller, written] at access
  exact ends_writeWord (s := holding s c m) alive access

end

section
variable {s : Simulator Stats} (alive : s.stuck = false)
include alive

theorem ends_setHandler {line : UInt32} (inRange : line.toNat < s.handlers.size)
    (handler : Handler Stats) :
    Ends (Task.setHandler line handler) s (.ok ())
      { s with handlers := s.handlers.setIfInBounds line.toNat (some handler) } := by
  intro f
  have installed : s.install line handler =
      .ok { s with handlers := s.handlers.setIfInBounds line.toNat (some handler) } :=
    if_pos inRange
  show Task.run s (.install line handler f) = _
  rw [Task.run, if_neg (by simp [alive]), installed]

end

def withHandlers (list : List (UInt32 × Handler Stats))
    (handlers : Array (Option (Handler Stats))) : Array (Option (Handler Stats)) :=
  list.foldl (fun handlers h => handlers.setIfInBounds h.1.toNat (some h.2)) handlers

theorem ends_installHandlers {s : Simulator Stats} (alive : s.stuck = false)
    {list : List (UInt32 × Handler Stats)} (inRange : ∀ h ∈ list, h.1.toNat < s.handlers.size) :
    Ends (Layout.installHandlers list) s true
      { s with handlers := withHandlers list s.handlers } := by
  induction list generalizing s with
  | nil => exact ends_pure true s
  | cons h rest ih =>
    refine ends_bind (ends_setHandler alive (inRange h List.mem_cons_self) h.2) (ih alive ?_)
    intro other mem
    show other.1.toNat < (s.handlers.setIfInBounds h.1.toNat (some h.2)).size
    rw [Array.size_setIfInBounds]
    exact inRange other (List.mem_cons_of_mem _ mem)

-- ---------------------------------------------------------------------------
-- The whole set-up
-- ---------------------------------------------------------------------------

def Chamber.opened (c : Chamber) (usart1 : Uart) : Chamber := { c with
  usart1
  tim2 := startedTimer
  adc1 := { c.adc1 with regs := poweredRegs }
  can1 := { c.can1 with regs := openedRegs, mode := .init } }

def demoHandlers : List (UInt32 × Handler Stats) :=
  [(28, chamberLayout.timerHandler), (18, chamberLayout.adcHandler), (20, chamberLayout.canHandler)]

def enabledAll (c : InterruptController) : InterruptController :=
  ((c.setEnabled 28 true).setEnabled 18 true).setEnabled 20 true

/-! Each part of the set-up is stated with the program `k` that goes on after it. -/

section
variable {s t : Simulator Stats} {c : Chamber} {level : UInt16} {k : Task Stats Bool}

theorem Fresh.ends_setUpDevices (h : Fresh c) (alive : s.stuck = false) (m : Stats) :
    ∃ usart1, Ready usart1 ∧ ∀ k t, Ends k (holding s (c.opened usart1) m) true t →
      Ends (do
        chamberLayout.setUpConsole
        chamberLayout.setUpTimer
        chamberLayout.setUpAdc
        chamberLayout.setUpCan
        k) (holding s c m) true t := by
  obtain ⟨usart1, ready, console⟩ := ends_setUpConsole (s := s) alive m h.console
  have timer := ends_setUpTimer (s := s) alive (c := { c with usart1 }) m h.tim2
  have adc := ends_setUpAdc (s := s) alive (c := { c with usart1, tim2 := startedTimer }) m
    h.adcRegs
  have can := ends_setUpCan (s := s) alive (c := { c with
    usart1, tim2 := startedTimer, adc1 := { c.adc1 with regs := poweredRegs } }) m h.canRegs h.mode
  exact ⟨usart1, ready, fun k t rest =>
    ends_bind console (ends_bind timer (ends_bind adc (ends_bind can rest)))⟩

theorem ends_enableLines (alive : s.stuck = false) (banks : c.nvic.banks = 8) (m : Stats)
    (rest : Ends k (holding { s with
      bus := { s.bus with controller := enabledAll s.bus.controller } } c m) true t) :
    Ends (do
      chamberLayout.enableLine 28
      chamberLayout.enableLine 18
      chamberLayout.enableLine 20
      k) (holding s c m) true t := by
  let enabled (c : InterruptController) : Simulator Stats :=
    { s with bus := { s.bus with controller := c } }
  have timer := ends_enableLine (s := s) alive m banks 28 (by decide)
  have adc := ends_enableLine (s := enabled (s.bus.controller.setEnabled 28 true)) alive m
    banks 18 (by decide)
  have can := ends_enableLine
    (s := enabled ((s.bus.controller.setEnabled 28 true).setEnabled 18 true)) alive m
    banks 20 (by decide)
  exact ends_bind timer (ends_bind adc (ends_bind can rest))

theorem ends_installDemo (alive : s.stuck = false) (size : s.handlers.size = 256) (m : Stats) :
    Ends (Layout.installHandlers demoHandlers) (holding s c m) true
      (holding { s with handlers := withHandlers demoHandlers s.handlers } c m) := by
  refine ends_installHandlers (s := holding s c m) alive fun h mem => ?_
  have low : ∀ h ∈ demoHandlers, h.1.toNat < 256 := by simp [demoHandlers]
  exact Nat.lt_of_lt_of_eq (low h mem) size.symm

theorem Fresh.rested_opened (h : Fresh c) (channel : c.adc1.channel? 0 = some level)
    {usart1 : Uart} (ready : Ready usart1) (nextStatus : UInt64) :
    Rested level {} (c.opened usart1) { ready := true, nextStatus } := by
  unfold Chamber.opened
  refine ⟨⟨paces_started, converts_powered channel h.adcClock h.adcIdle,
    ⟨mail_opened level, h.bus, rfl, h.inbox, h.outbox⟩, ready⟩, ?_⟩
  exact ⟨rfl, nofun, rfl, rfl, rfl⟩

theorem Fresh.ends_setup (h : Fresh c) (alive : s.stuck = false) (size : s.handlers.size = 256)
    (channel : c.adc1.channel? 0 = some level) :
    ∃ c' m', Ends chamberLayout.setup (holding s c {}) true (holding { s with
        handlers := withHandlers demoHandlers s.handlers
        bus := { s.bus with controller := enabledAll s.bus.controller } } c' m') ∧
      Rested level {} c' m' := by
  obtain ⟨usart1, ready, devices⟩ := h.ends_setUpDevices (s := s) alive {}
  have rested := h.rested_opened channel ready (s.tick + chamberLayout.statusEvery)
  have banks : (c.opened usart1).nvic.banks = 8 := h.banks
  -- what the set-up goes on to do is the same on any devices
  generalize c.opened usart1 = c' at devices rested banks
  let t : Simulator Stats := { s with handlers := withHandlers demoHandlers s.handlers }
  let u : Simulator Stats :=
    { t with bus := { s.bus with controller := enabledAll s.bus.controller } }
  have ticks := ends_call (m := Task Stats) .ticks (s := holding u c' {}) alive
  refine ⟨c', _, devices _ _ (ends_bind (ends_installDemo alive size {}) ?_), rested⟩
  rw [if_neg (by decide)]
  exact ends_enableLines (s := t) alive banks {} (ends_bind ticks (ends_bind
    (ends_updateMemory (s := u) alive c' {} _) (ends_pure true _)))

end

end BoardSim.Demo
