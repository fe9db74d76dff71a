import BoardSim.Board.Descriptor
import BoardSim.Simulator.Lifecycle

/-!
# From board to simulator

Devices are built and mapped in the order of the board. For each of them its type and its extras
are checked first, then its size, then its interrupt line and its range.
-/

namespace BoardSim

namespace DeviceEntry

/-- The line of a SysTick that names none. -/
def sysTickLine : UInt32 := 15

def line? (d : DeviceEntry) : Option UInt32 :=
  d.irq.or (if d.kind = "systick" then some sysTickLine else none)

def clock (d : DeviceEntry) (default : UInt64) : Except BoardError UInt64 := do
  pure ((← d.extra? "clock_hz").getD default)

def canBus (d : DeviceEntry) : Except BoardError UInt8 := do
  let number := (← d.extra? "bus").getD 0
  if number < 256 then pure number.toUInt8 else throw (.canBus number d.id)

def build (d : DeviceEntry) (controller : InterruptController) : Except BoardError Device :=
  match d.kind with
  | "uart" => pure (.uart {})
  | "timer" => return .timer (.withClock (← d.clock Timer.defaultHz))
  | "adc" => return .adc (.withClock (← d.clock Adc.defaultHz))
  | "rtc" => return .rtc (.withClock (← d.clock Rtc.defaultHz))
  | "spi" => pure (.spi {})
  | "systick" => return .sysTick (.withClock (← d.clock SysTick.defaultHz))
  | "can" => return .can { bus := ← d.canBus }
  | "nvic" => pure (.view { banks := controller.banks })
  | kind => throw (.unsupportedType kind d.id)

end DeviceEntry

namespace Settings

def toConfig (s : Settings) : SimConfig where
  tick := s.tickNanos
  pacing := s.pacingNanos
  joinTimeout := s.joinTimeoutNanos
  irqLines := s.irqLines

end Settings

namespace Simulator

variable {σ : Type}

section
variable (parse : SizeParser)

def addEntryBy (s : Simulator σ) (d : DeviceEntry) : Except BoardError (Simulator σ) := do
  let device ← d.build s.bus.controller
  let size ← d.sizeBytesBy parse
  let entry := { name := d.id, base := d.baseAddress, size, irq := d.line?, device }
  match s.addDevice entry with
  | .ok (_, s) => pure s
  | .error e => throw (.unmapped d.id e)

/-- The simulator of a board, where `parse` reads the sizes. The first fault is reported. -/
def ofBoardBy (board : Board) (memory : σ) : Except BoardError (Simulator σ) :=
  board.devices.foldlM (addEntryBy parse) (new board.simulation.toConfig memory)

end

def ofBoard (board : Board) (memory : σ) : Except BoardError (Simulator σ) :=
  ofBoardBy Size.parse board memory

end Simulator

end BoardSim
