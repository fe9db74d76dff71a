import BoardSim.Board.Extra
import BoardSim.Board.Size
import BoardSim.Directory
import BoardSim.Error
import BoardSim.Text.Quoted

/-!
# Board descriptors

A board is the timing of its simulation and a list of devices. `Board.validate` accepts a board
whose schema is known, whose tick and number of interrupt lines make sense, and whose devices have
ids of their own and readable sizes. What stops a board from being built shows only later.
-/

namespace BoardSim

inductive BoardError where
  | noFile (path : String) (fault : FileFault)
  /-- The file does not hold a board in JSON. -/
  | notJson (path : String)
  | notYaml
  /-- The value does not describe what it should. -/
  | illFormed
  | schemaVersion (version : String)
  | zeroTick
  | irqLines (lines : UInt32)
  | emptyId (base : UInt64)
  | duplicateId (id : String)
  | size (id : String) (e : SizeError)
  | notUnsigned (key id : String)
  | canBus (number : UInt64) (id : String)
  | unsupportedType (kind id : String)
  | unmapped (id : String) (e : SimError)
deriving DecidableEq

namespace BoardError

def message : BoardError → String
  | noFile path _ => "Failed to open board descriptor at " ++ Text.quoted path
  | notJson path => "Failed to parse board descriptor JSON from " ++ Text.quoted path
  | notYaml => "Failed to parse Board Descriptor YAML"
  | illFormed => ""
  | schemaVersion version =>
    "Unsupported schema_version '" ++ version ++ "'. Supported versions: '1.0'"
  | zeroTick => "Simulation 'tick_us' must be greater than zero"
  | irqLines lines =>
    "Simulation 'irq_lines' must be between 1 and 4096, got " ++ toString lines.toNat
  | emptyId base => "Device at " ++ Text.hex base.toNat ++ " has an empty id"
  | duplicateId id => "Duplicate device id '" ++ id ++ "'"
  | size id e => "Invalid size for device '" ++ id ++ "': " ++ e.message
  | notUnsigned key id =>
    "Field '" ++ key ++ "' in 'config' for device '" ++ id ++ "' must be an unsigned integer"
  | canBus number id =>
    "CAN bus index " ++ toString number.toNat ++ " for '" ++ id ++ "' does not fit in u8"
  | unsupportedType kind id => "Unsupported device type '" ++ kind ++ "' for id '" ++ id ++ "'"
  | unmapped id e => "Failed to map device '" ++ id ++ "': " ++ e.message

end BoardError

structure Settings where
  tickMicros : UInt64 := 1000
  /-- Real time between ticks; as long as the tick if it is not given. -/
  pacingMicros : Option UInt64 := none
  joinTimeoutMillis : UInt64 := 500
  irqLines : UInt32 := 256
deriving DecidableEq

namespace Settings

def tickNanos (s : Settings) : Nat := s.tickMicros.toNat * 1000

def pacingNanos (s : Settings) : Nat := (s.pacingMicros.getD s.tickMicros).toNat * 1000

def joinTimeoutNanos (s : Settings) : Nat := s.joinTimeoutMillis.toNat * 1000000

end Settings

structure DeviceEntry where
  id : String
  kind : String
  baseAddress : UInt64
  /-- The mapped size, as in `4KiB`. -/
  size : Option String := none
  irq : Option UInt32 := none
  config : List (String × Extra) := []

namespace DeviceEntry

/-- The mapped size of a device that gives none. -/
def defaultSize : UInt64 := 0x1000

/-- The size of the device, where `parse` reads the sizes of the board. -/
def sizeBytesBy (parse : SizeParser) (d : DeviceEntry) : Except BoardError UInt64 :=
  match d.size with
  | none => .ok defaultSize
  | some text => (parse text).mapError (.size d.id)

def sizeBytes (d : DeviceEntry) : Except BoardError UInt64 := d.sizeBytesBy Size.parse

/-- An unsigned integer of the `config` map, if there is a value of that name. -/
def extra? (d : DeviceEntry) (key : String) : Except BoardError (Option UInt64) :=
  match d.config.find? (·.1 == key) with
  | none => .ok none
  | some (_, value) =>
    match value.unsigned? with
    | some n => .ok (some n)
    | none => .error (.notUnsigned key d.id)

end DeviceEntry

structure Board where
  schemaVersion : String := "1.0"
  name : String
  simulation : Settings := {}
  devices : List DeviceEntry

namespace Board

def maxIrqLines : UInt32 := 4096

/-- Check the devices in order; `seen` are the ids of those before them. -/
def validateDevices (seen : List String) : List DeviceEntry → Except BoardError Unit
  | [] => .ok ()
  | d :: rest => do
    if (Text.trim d.id.toList).isEmpty then throw (.emptyId d.baseAddress)
    if seen.contains d.id then throw (.duplicateId d.id)
    let _ ← d.sizeBytes
    validateDevices (d.id :: seen) rest

/-- Check a board. The first fault is reported. -/
def validate (b : Board) : Except BoardError Unit := do
  if b.schemaVersion ≠ "1.0" then throw (.schemaVersion b.schemaVersion)
  if b.simulation.tickMicros = 0 then throw .zeroTick
  if b.simulation.irqLines = 0 ∨ maxIrqLines < b.simulation.irqLines then
    throw (.irqLines b.simulation.irqLines)
  validateDevices [] b.devices

def device? (b : Board) (id : String) : Option DeviceEntry := b.devices.find? (·.id == id)

end Board

end BoardSim
