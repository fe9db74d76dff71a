import BoardSim.Peripheral

/-!
# Observers

The simulator tells its observers what happens, in order. An observer is a value that takes in one
notification at a time: a recorder keeps them, metrics count them.
-/

namespace BoardSim

inductive Notification where
  | started
  | stopped
  | tickStarted (tick : UInt64)
  | deviceUpdated (name : String) (result : TickResult)
  | lineDispatched (line : UInt32)
  | tickEnded (tick : UInt64)
deriving DecidableEq

structure Tally (κ : Type) where
  counts : List (κ × UInt64) := []

namespace Tally

variable {κ : Type} [DecidableEq κ]

def bump (t : Tally κ) (key : κ) : Tally κ := ⟨go t.counts⟩
where
  go : List (κ × UInt64) → List (κ × UInt64)
    | [] => [(key, 1)]
    | (k, n) :: rest => if k = key then (k, n + 1) :: rest else (k, n) :: go rest

def count (t : Tally κ) (key : κ) : UInt64 := go t.counts
where
  go : List (κ × UInt64) → UInt64
    | [] => 0
    | (k, n) :: rest => if k = key then n else go rest

theorem count_bump (t : Tally κ) (key other : κ) :
    (t.bump key).count other = t.count other + if other = key then 1 else 0 := by
  obtain ⟨counts⟩ := t
  simp only [count, bump]
  induction counts with
  | nil => simp [bump.go, count.go, eq_comm]
  | cons entry rest ih =>
    obtain ⟨k, n⟩ := entry
    by_cases hk : k = key
    · subst hk
      by_cases h : k = other
      · simp [bump.go, count.go, h]
      · simp [bump.go, count.go, h, Ne.symm h]
    · by_cases h : k = other
      · subst h; simp [bump.go, count.go, hk]
      · simp [bump.go, count.go, hk, h, ih]

end Tally

/-- The counters wrap. -/
structure Metrics where
  tickCount : UInt64 := 0
  irqCount : UInt64 := 0
  irqsByLine : Tally UInt32 := {}
  /-- Steps in which a device of that name asked for an interrupt. -/
  requestsByDevice : Tally String := {}

namespace Metrics

def notify (m : Metrics) : Notification → Metrics
  | .tickEnded _ => { m with tickCount := m.tickCount + 1 }
  | .lineDispatched line =>
    { m with irqCount := m.irqCount + 1, irqsByLine := m.irqsByLine.bump line }
  | .deviceUpdated name result =>
    if result.isRequest then { m with requestsByDevice := m.requestsByDevice.bump name } else m
  | .started | .stopped | .tickStarted _ => m

def ticks (m : Metrics) : Nat := m.tickCount.toNat

def irqs (m : Metrics) : Nat := m.irqCount.toNat

def irqsOf (m : Metrics) (line : UInt32) : Nat := (m.irqsByLine.count line).toNat

def requestsOf (m : Metrics) (name : String) : Nat := (m.requestsByDevice.count name).toNat

end Metrics

inductive Observer where
  | recorder (seen : Array Notification)
  | metrics (m : Metrics)

namespace Observer

def notify (o : Observer) (n : Notification) : Observer :=
  match o with
  | recorder seen => recorder (seen.push n)
  | metrics m => metrics (m.notify n)

end Observer

end BoardSim
