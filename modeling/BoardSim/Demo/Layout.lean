import BoardSim.Board.Build

/-!
# Where the demo firmware finds its devices

The addresses of the registers that the growth-chamber firmware uses and the interrupt lines it
serves, looked up on the board it runs on.
-/

namespace BoardSim.Demo

/-- What the firmware needs and the board does not have. -/
inductive LayoutError where
  | noRegister (device name : String)
  | noLine (device : String)
deriving DecidableEq

def LayoutError.message : LayoutError → String
  | noRegister device name => "Demo firmware needs register " ++ device ++ "." ++ name
  | noLine device => "Demo firmware needs an interrupt line for '" ++ device ++ "'"

structure TimerRegisters where
  cr1 : UInt64
  dier : UInt64
  sr : UInt64
  psc : UInt64
  arr : UInt64

structure AdcRegisters where
  cr1 : UInt64
  cr2 : UInt64
  sqr3 : UInt64
  dr : UInt64

structure ConsoleRegisters where
  sr : UInt64
  dr : UInt64
  brr : UInt64
  cr1 : UInt64

structure Layout where
  enableBase : UInt64
  console : ConsoleRegisters
  timer : TimerRegisters
  timerLine : UInt32
  adc : AdcRegisters
  adcLine : UInt32
  canBase : UInt64
  canLine : UInt32
  /-- Ticks between two status lines. -/
  statusEvery : UInt64

/-- Whole ticks in a second, at least one. A tick counts in whole microseconds. -/
def ticksPerSecond (config : SimConfig) : UInt64 :=
  UInt64.ofNat (max (1000000 / max (config.tick / 1000) 1) 1)

variable {σ : Type}

def register (s : Simulator σ) (device name : String) : Except LayoutError UInt64 :=
  match s.bus.registerAddress? device name with
  | some address => .ok address
  | none => .error (.noRegister device name)

def line (board : Board) (device : String) : Except LayoutError UInt32 :=
  match (board.device? device).bind (·.irq) with
  | some line => .ok line
  | none => .error (.noLine device)

/-- Find everything the firmware needs. What is missing first is reported. -/
def Layout.resolve (s : Simulator σ) (board : Board) : Except LayoutError Layout := do
  let enableBase ← register s "nvic" "ISER0"
  let console : ConsoleRegisters := {
    sr := ← register s "usart1" "SR"
    dr := ← register s "usart1" "DR"
    brr := ← register s "usart1" "BRR"
    cr1 := ← register s "usart1" "CR1" }
  let timer : TimerRegisters := {
    cr1 := ← register s "tim2" "CR1"
    dier := ← register s "tim2" "DIER"
    sr := ← register s "tim2" "SR"
    psc := ← register s "tim2" "PSC"
    arr := ← register s "tim2" "ARR" }
  let timerLine ← line board "tim2"
  let adc : AdcRegisters := {
    cr1 := ← register s "adc1" "CR1"
    cr2 := ← register s "adc1" "CR2"
    sqr3 := ← register s "adc1" "SQR3"
    dr := ← register s "adc1" "DR" }
  let adcLine ← line board "adc1"
  let canBase ← register s "can1" "MCR"
  let canLine ← line board "can1"
  pure {
    enableBase, console, timer, timerLine, adc, adcLine, canBase, canLine
    statusEvery := ticksPerSecond s.config }

end BoardSim.Demo
