import BoardSim.Access

/-!
# Calls

What code on the chip can ask of the simulator and gets answered at once. `σ` is the memory the
code keeps for itself: its counters and variables, which no device sees.

`MonadCall` lets one function serve interrupt handlers and firmware alike.
-/

namespace BoardSim

inductive Call (σ : Type) where
  | access (address : UInt64) (size : AccessSize) (direction : Direction) (payload : UInt64)
  /-- Latch an interrupt line. With `wake` an enabled line wakes the stepping loop. -/
  | request (line : UInt32) (wake : Bool)
  | setEnabled (line : UInt32) (on : Bool)
  | ticks
  | running
  | memory
  | update (f : σ → σ)

namespace Call

abbrev Answer {σ : Type} : Call σ → Type
  | access .. => UInt64
  | request .. => Bool
  | setEnabled .. => Unit
  | ticks => UInt64
  | running => Bool
  | memory => σ
  | update _ => Unit

def usesBus {σ : Type} : Call σ → Bool
  | access .. => true
  | _ => false

end Call

class MonadCall (σ : outParam Type) (m : Type → Type) where
  call : (c : Call σ) → m c.Answer

namespace MonadCall

variable {σ : Type} {m : Type → Type} [Monad m] [MonadCall σ m]

/-- Read `size` bytes, the lowest first. -/
def load (size : AccessSize) (address : UInt64) : m UInt64 :=
  call (.access address size .read 0)

/-- Write the low bytes of `value`. -/
def store (size : AccessSize) (address value : UInt64) : m Unit := do
  let _ ← (call (.access address size .write value) : m UInt64)

def readWord (address : UInt64) : m UInt32 := do
  let value : UInt64 ← load .word address
  pure value.toUInt32

def writeWord (address : UInt64) (word : UInt32) : m Unit := store .word address word.toUInt64

/-- Read a word, clear the bits of `clear`, then set those of `set`. -/
def modifyWord (address : UInt64) (clear set : UInt32) : m Unit := do
  let word : UInt32 ← readWord address
  writeWord address ((word &&& ~~~clear) ||| set)

end MonadCall

end BoardSim
