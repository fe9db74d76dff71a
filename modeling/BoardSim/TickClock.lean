/-!
# Peripheral clocks

A `TickClock` turns simulated nanoseconds into whole clock cycles and carries the fraction of a
cycle that is left over to the next step, so the total never drifts from the simulated time.
-/

namespace BoardSim

def nanosPerSecond : Nat := 1000000000

structure TickClock where
  hz : UInt64
  /-- Billionths of a cycle left over from the steps so far. -/
  remainder : UInt64 := 0
deriving DecidableEq, Inhabited

namespace TickClock

/-- Cycles times 10⁹ that have passed and not been handed out after `nanos` more nanoseconds. The
product is held in 128 bits. -/
def scaled (clock : TickClock) (nanos : Nat) : Nat :=
  (nanos * clock.hz.toNat + clock.remainder.toNat) % (UInt64.size * UInt64.size)

/-- The whole cycles that elapse in `nanos` nanoseconds. -/
def advance (clock : TickClock) (nanos : Nat) : UInt64 × TickClock :=
  let total := clock.scaled nanos
  (UInt64.ofNat (total / nanosPerSecond),
    { clock with remainder := UInt64.ofNat (total % nanosPerSecond) })

theorem hz_advance (clock : TickClock) (nanos : Nat) : (clock.advance nanos).2.hz = clock.hz := rfl

/-- Less than a cycle is left over. -/
theorem remainder_advance_lt (clock : TickClock) (nanos : Nat) :
    (clock.advance nanos).2.remainder.toNat < nanosPerSecond := by
  have := Nat.mod_lt (clock.scaled nanos) (show 0 < nanosPerSecond by decide)
  exact Nat.lt_of_le_of_lt (by simpa [advance] using Nat.mod_le _ _) this

end TickClock

end BoardSim
