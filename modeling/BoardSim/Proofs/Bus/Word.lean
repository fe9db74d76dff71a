import BoardSim.Proofs.Bus.Routing
import BoardSim.Proofs.Peripheral.Reach

/-!
# Word accesses

A word access at the offset of a register runs the hooks of that register and nothing else, whatever
the device is. On the bus it replaces the device of one entry.
-/

namespace BoardSim

namespace Device

def readRegister (d : Device) (controller : InterruptController) (i : Nat) :
    UInt32 × Device × InterruptController :=
  d.apply controller fun _ _ d =>
    let (word, d) := Peripheral.fetch d i
    (word, Peripheral.settle d i)

def writeRegister (d : Device) (controller : InterruptController) (i : Nat) (word : UInt32) :
    Device × InterruptController :=
  (d.apply controller fun _ _ d => ((), Peripheral.commit d i word)).2

section
variable {d : Device} {offset : UInt64} {i : Nat} (aligned : offset % 4 = 0)
  (found : d.layout.indexOf? offset = some i)
include aligned found

theorem access_read_word (controller : InterruptController) (payload : UInt64) :
    d.access controller offset .word .read payload =
      ((d.readRegister controller i).1.toUInt64, (d.readRegister controller i).2) := by
  cases d <;>
    (simp only [layout] at found
     simp only [access, readRegister, apply, Peripheral.access_read_word aligned, Peripheral.read,
      Peripheral.layout, found])

theorem access_write_word (controller : InterruptController) (payload : UInt64) :
    d.access controller offset .word .write payload =
      (0, d.writeRegister controller i payload.toUInt32) := by
  cases d <;>
    (simp only [layout] at found
     simp only [access, writeRegister, apply, Peripheral.access_write_word aligned,
      Peripheral.write, Peripheral.layout, found])

end

end Device

namespace Bus

def replace (bus : Bus) (index : Nat) (e : Entry) (device : Device)
    (controller : InterruptController) : Bus :=
  { bus with controller, entries := bus.entries.setIfInBounds index { e with device } }

/-- A word access at `address` runs the hooks of register `i` of entry `index` and nothing else. -/
structure Runs (bus : Bus) (address : UInt64) (index : Nat) (e : Entry) (i : Nat) : Prop where
  entry : bus.entries[index]? = some e
  read : ∀ payload, bus.access address .word .read payload =
    let (word, device, controller) := e.device.readRegister bus.controller i
    (word.toUInt64, bus.replace index e device controller)
  write : ∀ payload, bus.access address .word .write payload =
    let (device, controller) := e.device.writeRegister bus.controller i payload.toUInt32
    (0, bus.replace index e device controller)

theorem runs_of_resolve {bus : Bus} {address offset : UInt64} {index i : Nat} {e : Entry}
    (resolved : bus.map.resolve address = some (index, offset))
    (here : bus.entries[index]? = some e) (aligned : offset % 4 = 0)
    (found : e.device.layout.indexOf? offset = some i) : bus.Runs address index e i where
  entry := here
  read payload := by
    rw [access, resolved]
    simp only [here]
    rw [Device.access_read_word aligned found]
    rfl
  write payload := by
    rw [access, resolved]
    simp only [here]
    rw [Device.access_write_word aligned found]
    rfl

end Bus

end BoardSim
