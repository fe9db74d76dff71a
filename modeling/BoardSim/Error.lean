import BoardSim.Text.Duration

/-!
# Simulator errors

What can go wrong when a device is mapped, a handler is registered or the simulator is started or
stopped, and the text of each.
-/

namespace BoardSim

inductive SimError where
  | addressOverlap (name : String) (base size : UInt64) (other : String)
  | invalidRange (name : String) (base size : UInt64)
  | invalidIrqLine (line lines : UInt32)
  /-- A thread did not end within the given nanoseconds. -/
  | shutdownTimeout (nanos : Nat)
  /-- The call is not available inside an interrupt handler. -/
  | inHandler (call : String)
  | alreadyRunning
deriving DecidableEq

namespace SimError

def message : SimError → String
  | addressOverlap name base size other =>
    "device '" ++ name ++ "' at " ++ Text.hex base.toNat ++ " (size " ++ Text.hex size.toNat ++
      ") overlaps '" ++ other ++ "'"
  | invalidRange name base size =>
    "device '" ++ name ++ "' has an invalid address range " ++ Text.hex base.toNat ++
      " (size " ++ Text.hex size.toNat ++ ")"
  | invalidIrqLine line lines =>
    "interrupt line " ++ toString line.toNat ++ " out of range (controller has " ++
      toString lines.toNat ++ " lines)"
  | shutdownTimeout nanos =>
    "simulator threads did not exit within " ++ Text.duration nanos
  | inHandler call => call ++ " is not available inside an interrupt handler"
  | alreadyRunning => "simulator is already running"

end SimError

end BoardSim
