import BoardSim.Board.GrowthChamber
import BoardSim.Board.Reader
import BoardSim.Command.Options
import BoardSim.Command.Summary
import BoardSim.Demo.Firmware
import BoardSim.Json.Writer
import BoardSim.Snapshot

/-!
# A run of the command

The board is loaded and built, the demo firmware started, the frames of the command line injected,
and the ticks run; then the simulator is stopped and what came out is collected. Reading and
writing files is left to the caller.
-/

namespace BoardSim.Command

inductive Refusal where
  | board (e : BoardError)
  | layout (e : Demo.LayoutError)
  | start (e : SimError)
deriving DecidableEq

namespace Refusal

def message : Refusal → String
  | board (.noFile path fault) => (BoardError.noFile path fault).message ++ ": " ++ fault.message
  | board e => e.message
  | layout e => e.message
  | start e => e.message

/-- A fault of the board is one of the configuration. -/
def exitCode : Refusal → UInt8
  | board _ | layout _ => 2
  | start _ => 3

end Refusal

structure Run where
  board : Board
  sim : Simulator Demo.Stats
  metrics : Metrics
  finished : Bool
  /-- Why the stop failed, if it did. -/
  stopFault : Option SimError
  traffic : Array Can.TraceEvent
  frames : List Can.Frame
  console : Array UInt8

/-- The board of a file, given what reading it gave, or the built-in one. -/
def loadBoard (file : Option (String × Except FileFault String)) : Except BoardError Board :=
  match file with
  | some (path, content) => Board.ofFile path content
  | none => Board.growthChamber.validate.map fun _ => Board.growthChamber

def setProbe (bus : Bus) (probe : UInt16) : Bus :=
  match bus.onDevice? "adc1" (·.onAdc? fun a => ((), a.setChannel 0 probe)) with
  | some (_, bus) => bus
  | none => bus

def attachConsole (bus : Bus) : Bus :=
  match bus.onDevice? "usart1" (·.onUart? fun u => ((), u.attachSink)) with
  | some (_, bus) => bus
  | none => bus

/-- Put frames on a CAN bus, if a controller is attached to it. -/
def injectAll (bus : Bus) (number : UInt8) (frames : List Can.Frame) : Bus :=
  match bus.onCanBus? number fun c => ((), frames.foldl (·.inject ·) c) with
  | some (_, bus) => bus
  | none => bus

/-- Everything up to the start of the firmware; the number is that of the metrics. -/
def prepare (o : Options) (board : Board) :
    Except Refusal (Nat × Demo.Layout × Simulator Demo.Stats) := do
  let s ← (Simulator.ofBoard board ({} : Demo.Stats)).mapError .board
  let layout ← (Demo.Layout.resolve s board).mapError .layout
  let (metrics, s) := s.addObserver (.metrics {})
  let bus := if o.canTrace then s.bus.startTrace.2 else s.bus
  pure (metrics, layout, { s with bus := attachConsole (setProbe bus o.probe) })

def metricsOf (s : Simulator Demo.Stats) (number : Nat) : Metrics :=
  match s.observers[number]? with
  | some (.metrics m) => m
  | _ => {}

def collect (o : Options) (board : Board) (metrics : Nat) (stopFault : Option SimError)
    (s : Simulator Demo.Stats) : Run :=
  let (traffic, bus) := s.bus.takeTrace
  let frames := ((bus.onCanBus? 0 (·.collectAll)).map (·.1)).getD []
  let console := (bus.onDevice? "usart1" (·.onUart? (·.takeSink))).bind (·.1)
  { board, sim := s, metrics := metricsOf s metrics, finished := s.reached o.ticks, stopFault,
    traffic, frames, console := console.getD #[] }

/-- Run the demo firmware on a board. -/
def execute (o : Options) (board : Board) : Except Refusal Run := do
  let (metrics, layout, s) ← prepare o board
  let s ← (s.start (Demo.firmware layout)).mapError .start
  let s := { s with bus := injectAll s.bus 0 o.inject }
  let (_, s) := s.runTicks o.ticks.toNat
  let (stopped, s) := s.stop
  let stopFault :=
    match stopped with
    | .ok _ => none
    | .error e => some e
  pure (collect o board metrics stopFault s)

namespace Run

/-- The lines of the board's devices that were dispatched, in ascending order. -/
def irqsByLine (r : Run) : List (UInt32 × UInt64) :=
  let lines := (r.board.devices.filterMap (·.irq)).mergeSort (· ≤ ·)
  let counts := lines.eraseDups.map fun line => (line, r.metrics.irqsByLine.count line)
  counts.filter fun (_, count) => count ≠ 0

def succeeded (r : Run) : Bool := r.finished && r.stopFault.isNone

def summary (r : Run) (rate : Float) : Summary where
  finished := r.succeeded
  ticks := r.sim.tick
  simTimeMicros := r.sim.simTime / 1000
  irqsTotal := r.metrics.irqCount
  irqsByLine := r.irqsByLine
  rate := rate
  adcSamples := r.sim.memory.samples
  lastSample := r.sim.memory.lastSample
  setpoint := r.sim.memory.setpoint
  canFrames := UInt64.ofNat r.frames.length
  uartBytes := UInt64.ofNat r.console.size

def byteText (byte : UInt8) : String :=
  Text.padLeft 2 '0' (String.ofList ((Nat.toDigits 16 byte.toNat).map Char.toUpper))

def traceLine (e : Can.TraceEvent) : String :=
  let flow :=
    match e.flow with
    | .rx => "Rx"
    | .tx => "Tx"
    | .dropped => "Dropped"
  let buffer := e.buffer.map fun n => " mb" ++ toString n.toNat
  "can" ++ toString e.bus.toNat ++ " " ++ flow ++ " " ++ Text.hexPadded 5 e.frame.id.toNat ++
    " [" ++ toString e.frame.dlc.toNat ++ "] [" ++
    ", ".intercalate (e.frame.payload.map byteText) ++ "]" ++ buffer.getD ""

def output (r : Run) (o : Options) (rate : Float) : List String :=
  let traffic := if o.canTrace then r.traffic.toList.map traceLine else []
  let summary := r.summary rate
  traffic ++ if o.json then [summary.toJson.compact] else summary.lines

def errors (r : Run) (o : Options) : List String :=
  (if r.finished then []
    else ["Simulation stalled at tick " ++ toString r.sim.tick.toNat ++ " of " ++
      toString o.ticks.toNat]) ++
    r.stopFault.toList.map SimError.message

def snapshotText (r : Run) : String := r.sim.snapshot.pretty 0

/-- What is reported when the snapshot file cannot be created. -/
def snapshotError (path : String) (fault : FileFault) : String :=
  "Failed to create snapshot " ++ Text.quoted path ++ ": " ++ fault.message

/-- The exit code; a fault of the snapshot file outweighs a run that succeeded. -/
def exitCode (r : Run) (snapshotFailed : Bool) : UInt8 :=
  if snapshotFailed || !r.succeeded then 3 else 0

end Run

end BoardSim.Command
