import BoardSim.Simulator.Tick
import BoardSim.Json.Value

/-!
# Snapshots

The state of the devices and of the whole simulator as JSON, for whoever watches from outside. A
snapshot shows what registers hold, and reading it has no effect.
-/

namespace BoardSim

open Json (nat)

def bytesToJson (bytes : List UInt8) : Json := Json.list (nat ·.toNat) bytes

namespace Can

def Frame.toJson (f : Frame) : Json := .obj [
  ("id", nat f.id.toNat), ("extended", .bool f.extended), ("remote", .bool f.remote),
  ("dlc", nat f.dlc.toNat), ("data", bytesToJson f.data.toList)]

def Mailbox.toJson (m : Mailbox) : Json := .obj [
  ("code", nat m.code.toNat), ("cs", nat m.cs.toNat), ("id", nat m.id.toNat),
  ("dlc", nat m.dlc.toNat), ("data", bytesToJson m.data.toList)]

def Mode.label : Mode → String
  | off => "off"
  | init => "init"
  | sleep => "sleep"
  | idle => "idle"
  | rx => "rx"
  | tx => "tx"

def Flow.label : Flow → String
  | rx => "rx"
  | tx => "tx"
  | dropped => "dropped"

def TraceEvent.toJson (e : TraceEvent) : Json := .obj [
  ("bus", nat e.bus.toNat), ("direction", .str e.flow.label), ("frame", e.frame.toJson),
  ("buffer", Json.ofOption (nat ·.toNat) e.buffer)]

def Controller.activeMailboxes (c : Controller) : List (Nat × Mailbox) :=
  (List.range bufferCount).filterMap fun n =>
    ((c.mailbox? n).filter (·.code ≠ Code.rxInactive)).map (n, ·)

def Controller.snapshot (c : Controller) : Json := .obj [
  ("bus", nat c.bus.toNat), ("state", .str c.mode.label),
  ("mcr", nat (c.regs.get Controller.mcr).toNat),
  ("imask1", nat (c.regs.get Controller.imask1).toNat),
  ("iflag1", nat (c.regs.get Controller.iflag1).toNat), ("timer", nat c.stamp.toNat),
  ("mailboxes", Json.list
    (fun (n, m) => .obj [("index", nat n), ("mailbox", m.toJson)]) c.activeMailboxes)]

end Can

namespace InterruptController

def snapshot (c : InterruptController) : Json := .obj [
  ("iser", Json.list (nat ·.toNat) c.enabled.words.toList),
  ("ispr", Json.list (nat ·.toNat) c.pending.words.toList)]

end InterruptController

namespace Device

/-- The words the registers hold, by name. Of registers of one name the last one is shown. -/
def registers (d : Device) : Json :=
  .obj (d.layout.zipIdx.foldl
    (fun fields (r, i) => Json.setField fields r.name (nat (d.held i).toNat)) [])

def snapshot (d : Device) (controller : InterruptController) : Json :=
  match d with
  | uart u => .obj [("registers", d.registers), ("rx_queued", nat u.queue.length)]
  | adc a => .obj [
      ("registers", d.registers),
      ("channels", Json.list (nat ·.toNat) a.channels.toList),
      ("converting", .bool a.converting)]
  | rtc r => .obj [
      ("crh", nat (r.regs.get Rtc.crh).toNat), ("crl", nat (r.regs.get Rtc.crl).toNat),
      ("prl", nat r.prl.toNat), ("div", nat r.div.toNat), ("cnt", nat r.cnt.toNat),
      ("alr", nat r.alr.toNat)]
  | can c => c.snapshot
  | view _ => controller.snapshot
  | timer _ | spi _ | sysTick _ | scratch _ => d.registers

end Device

namespace Simulator

variable {σ : Type}

def peek? (s : Simulator σ) (name : String) : Option Json :=
  (s.bus.find? name).map (·.device.snapshot s.bus.controller)

/-- Of devices of one name the last one is shown. -/
def snapshot (s : Simulator σ) : Json := .obj [
  ("tick", nat s.tick.toNat), ("sim_time_us", nat (s.simTime.toNat / 1000)),
  ("interrupts", s.bus.controller.snapshot),
  ("devices", .obj (s.bus.entries.foldl
    (fun fields e => Json.setField fields e.name (e.device.snapshot s.bus.controller)) []))]

end Simulator

end BoardSim
