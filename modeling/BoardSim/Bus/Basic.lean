import BoardSim.Device
import BoardSim.Error
import BoardSim.Bus.AddressMap

/-!
# System bus

The bus owns the devices and the interrupt controller. It routes every access to the device that
its first address belongs to, moves all devices through a step of simulated time and latches the
interrupt lines they ask for.
-/

namespace BoardSim

structure Entry where
  name : String
  base : UInt64
  size : UInt64
  irq : Option UInt32
  device : Device

structure Bus where
  controller : InterruptController
  entries : Array Entry := #[]
  map : AddressMap := []
  /-- The traced CAN traffic of all controllers, oldest first. -/
  traffic : Array Can.TraceEvent := #[]

namespace Bus

/-- Map a device. The interrupt line is checked first, then the range, then overlaps. -/
def register (bus : Bus) (entry : Entry) : Except SimError (Nat × Bus) :=
  let lines := bus.controller.lineCount
  match entry.irq.filter (lines ≤ ·) with
  | some line => .error (.invalidIrqLine line lines)
  | none =>
    let index := bus.entries.size
    match bus.map.insert? entry.base entry.size index with
    | .error .invalid => .error (.invalidRange entry.name entry.base entry.size)
    | .error (.overlaps other) =>
      let otherName := ((bus.entries[other]?).map Entry.name).getD ""
      .error (.addressOverlap entry.name entry.base entry.size otherName)
    | .ok map => .ok (index, { bus with entries := bus.entries.push entry, map })

def indexOf? (bus : Bus) (name : String) : Option Nat := bus.entries.findIdx? (·.name == name)

def find? (bus : Bus) (name : String) : Option Entry := bus.entries.find? (·.name == name)

/-- Run `f` on the first device called `name`; `none` if there is none or `f` does not apply. -/
def onDevice? {β : Type} (bus : Bus) (name : String) (f : Device → Option (β × Device)) :
    Option (β × Bus) := do
  let index ← bus.indexOf? name
  let entry ← bus.entries[index]?
  let (b, device) ← f entry.device
  pure (b, { bus with entries := bus.entries.setIfInBounds index { entry with device } })

/-- The absolute address of register `register` of the first device called `name`. -/
def registerAddress? (bus : Bus) (name register : String) : Option UInt64 := do
  let entry ← bus.find? name
  let (_, r) ← entry.device.layout.find? register
  pure (entry.base + r.offset)

/-- One access. An address that belongs to no device reads as zero and ignores writes. -/
def access (bus : Bus) (address : UInt64) (size : AccessSize) (direction : Direction)
    (payload : UInt64) : UInt64 × Bus :=
  match bus.map.resolve address with
  | none => (0, bus)
  | some (index, offset) =>
    match bus.entries[index]? with
    | none => (0, bus)
    | some entry =>
      let (value, device, controller) :=
        entry.device.access bus.controller offset size direction payload
      (value, { bus with
        controller
        entries := bus.entries.setIfInBounds index { entry with device } })

/-- The lines a device asks for: its own, if it has one, then the explicit ones. -/
def requestedLines (irq : Option UInt32) (result : TickResult) : List UInt32 :=
  (if result.irq then irq.toList else []) ++ result.explicit

theorem mem_requestedLines {irq : Option UInt32} {result : TickResult} {line : UInt32} :
    line ∈ requestedLines irq result ↔
      (result.irq = true ∧ irq = some line) ∨ line ∈ result.explicit := by
  cases asked : result.irq <;> simp [requestedLines, asked]

/-- The traced traffic of a device, which is empty afterwards. -/
def takeTraffic (d : Device) : Array Can.TraceEvent × Device :=
  match d with
  | .can c => c.takeTrace.map id .can
  | d => (#[], d)

/-- Move one device through a step and gather its traffic. -/
def advanceEntry (nanos : Nat) (entry : Entry) : Entry × TickResult × Array Can.TraceEvent :=
  let (device, result) := entry.device.advance nanos
  let (events, device) := takeTraffic device
  ({ entry with device }, result, events)

/-- Move every device through a step, in order. The results are those of the devices in order; no
line is latched yet. -/
def advanceDevices (bus : Bus) (nanos : Nat) : List (String × Option UInt32 × TickResult) × Bus :=
  let stepped := bus.entries.map (advanceEntry nanos)
  (stepped.toList.map fun (entry, result, _) => (entry.name, entry.irq, result),
    { bus with
      entries := stepped.map (·.1)
      traffic := stepped.foldl (fun log (_, _, events) => log ++ events) bus.traffic })

def latchAll (bus : Bus) (lines : List UInt32) : Bus :=
  { bus with controller := lines.foldl (·.latch ·) bus.controller }

/-- Turn tracing on in every CAN controller; tells how many there are. -/
def startTrace (bus : Bus) : Nat × Bus :=
  (bus.entries.countP fun e => match e.device with | .can _ => true | _ => false,
    { bus with entries := bus.entries.map fun e =>
        match e.device with
        | .can c => { e with device := .can c.startTrace }
        | _ => e })

def takeTrace (bus : Bus) : Array Can.TraceEvent × Bus := (bus.traffic, { bus with traffic := #[] })

/-- The name of the device that holds the CAN controller of bus number `number`. -/
def canIndex? (bus : Bus) (number : UInt8) : Option Nat :=
  bus.entries.findIdx? fun e => match e.device with | .can c => c.bus == number | _ => false

def onCanBus? {β : Type} (bus : Bus) (number : UInt8) (f : Can.Controller → β × Can.Controller) :
    Option (β × Bus) := do
  let index ← bus.canIndex? number
  let entry ← bus.entries[index]?
  let (b, device) ← entry.device.onCan? f
  pure (b, { bus with entries := bus.entries.setIfInBounds index { entry with device } })

end Bus

end BoardSim
