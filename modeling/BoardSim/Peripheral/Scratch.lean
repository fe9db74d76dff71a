import BoardSim.Peripheral

/-!
# Scratch registers

A device made of registers alone: reads return what is held, writes go through the write action of
each register, and every step makes the same request.
-/

namespace BoardSim

structure Scratch where
  layout : Layout
  regs : RegisterFile layout := .reset _
  /-- What every step asks for. -/
  result : TickResult := .quiet

namespace Scratch

instance : Peripheral Scratch where
  layout s := s.layout
  held s i := s.regs.get i
  put s i word := { s with regs := s.regs.set i word }

def advance (s : Scratch) (_nanos : Nat) : Scratch × TickResult := (s, s.result)

end Scratch

end BoardSim
