import BoardSim.Peripheral
import BoardSim.Interrupt.Controller

/-!
# Memory-mapped view of the interrupt controller

Four groups of registers, one register of each group per bank: `ISER` sets and `ICER` clears
enable bits, `ISPR` sets and `ICPR` clears pending bits. The groups lie 0x80 bytes apart and a
register is decoded from its offset, so the banks of a controller with more than 32 of them run
into the next group: the later register answers the offset, and the group of the offset decides.
-/

namespace BoardSim

namespace InterruptView

/-- What a register of the view does with the bits written to it. -/
inductive Group where
  | setEnable
  | clearEnable
  | setPending
  | clearPending
deriving DecidableEq

namespace Group

def base : Group → UInt64
  | setEnable => 0x000
  | clearEnable => 0x080
  | setPending => 0x100
  | clearPending => 0x180

def label : Group → String
  | setEnable => "ISER"
  | clearEnable => "ICER"
  | setPending => "ISPR"
  | clearPending => "ICPR"

def all : List Group := [setEnable, clearEnable, setPending, clearPending]

/-- The group an offset falls into; everything past the third is the last. -/
def ofOffset (offset : UInt64) : Group :=
  let start := offset &&& ~~~0x7F
  if start = 0x000 then setEnable
  else if start = 0x080 then clearEnable
  else if start = 0x100 then setPending
  else clearPending

end Group

def bankAt (offset : UInt64) : Nat := ((offset &&& 0x7F) / 4).toNat

def layout (banks : Nat) : Layout :=
  Group.all.flatMap fun group =>
    (List.range banks).map fun n =>
      { name := group.label ++ toString n, offset := group.base + UInt64.ofNat (n * 4) }

end InterruptView

/-- The registers of the view. What they show is the controller's state, not the held words. -/
structure InterruptView where
  banks : Nat
  regs : RegisterFile (InterruptView.layout banks) := .reset _

/-- A view together with the controller it shows. -/
structure MappedController where
  view : InterruptView
  controller : InterruptController

namespace MappedController

def decode (m : MappedController) (i : Nat) : InterruptView.Group × Nat :=
  let offset := (((InterruptView.layout m.view.banks)[i]?).map Register.offset).getD 0
  (.ofOffset offset, InterruptView.bankAt offset)

def fetch (m : MappedController) (i : Nat) : UInt32 × MappedController :=
  let (group, bank) := m.decode i
  (match group with
    | .setEnable | .clearEnable => m.controller.enabled.bank bank
    | .setPending | .clearPending => m.controller.pending.bank bank, m)

def commit (m : MappedController) (i : Nat) (word : UInt32) : MappedController :=
  let (group, bank) := m.decode i
  let c := m.controller
  { m with
    controller :=
      match group with
      | .setEnable => { c with enabled := c.enabled.setMask bank word }
      | .clearEnable => { c with enabled := c.enabled.clearMask bank word }
      | .setPending => { c with pending := c.pending.setMask bank word }
      | .clearPending => { c with pending := c.pending.clearMask bank word } }

instance : Peripheral MappedController where
  layout m := InterruptView.layout m.view.banks
  held m i := m.view.regs.get i
  put m i word := { m with view := { m.view with regs := m.view.regs.set i word } }
  fetch := fetch
  commit := commit

end MappedController

end BoardSim
