import BoardSim.Proofs.Peripheral.Operation
import BoardSim.Proofs.Timer.Count

/-!
# Runs of a timer

Firmware accesses the registers and time passes, in any order and in steps of any length. As long as
nothing but time moves the count (`Undisturbed`), what a run comes to depends on how many cycles
pass in it (`cyclesOver`), and these account for all of the simulated time (`accounts`).
-/

namespace BoardSim.Timer

open Peripheral (Operation perform)

inductive Action where
  | access (offset : UInt64) (size : AccessSize) (direction : Direction) (payload : UInt64)
  | advance (nanos : Nat)
deriving DecidableEq

def act (t : Timer) : Action → Timer
  | .access offset size direction payload => (Peripheral.access t offset size direction payload).2
  | .advance nanos => (t.advance nanos).1

def after (t : Timer) (actions : List Action) : Timer := actions.foldl act t

variable {t u : Timer} {actions more : List Action}

theorem after_append (t : Timer) (actions more : List Action) :
    t.after (actions ++ more) = (t.after actions).after more := List.foldl_append

theorem narrow_withClock (hz : UInt64) : (withClock hz).Narrow :=
  ⟨Nat.zero_lt_succ _, Nat.zero_lt_succ _, Nat.zero_lt_succ _, Nat.lt_succ_self _⟩

theorem Narrow.act (h : t.Narrow) (action : Action) : (t.act action).Narrow := by
  cases action with
  | access offset size direction payload => exact kept_narrow.access h offset size direction payload
  | advance nanos => exact h.advance nanos

theorem Narrow.after (h : t.Narrow) (actions : List Action) : (t.after actions).Narrow := by
  induction actions generalizing t with
  | nil => exact h
  | cons action rest ih => exact ih (h.act action)

-- ---------------------------------------------------------------------------
-- One register operation
-- ---------------------------------------------------------------------------

def forces : Operation → Bool
  | .read _ => false
  | .write i word => i == egr && anySet word ug

theorem perform_read (t : Timer) (i : Nat) : perform t (.read i) = t :=
  Peripheral.settle_of_keep (by decide : ∀ r ∈ layout, r.onRead = .keep) i

theorem perform_write (t : Timer) (i : Nat) (word : UInt32) :
    perform t (.write i word) =
      if forces (.write i word) then ({ t with regs := t.regs.store i word } : Timer).generate
      else { t with regs := t.regs.store i word } := by
  have asked : (i = egr ∧ anySet word ug = true) ↔ forces (.write i word) = true := by
    simp [forces]
  show t.commit i word = _
  simp only [commit, asked]

/-- Firmware reaches the prescaler's phase by a forced update event only. -/
theorem phase_perform (t : Timer) (operation : Operation) :
    (perform t operation).phase = if forces operation then 0 else t.phase := by
  cases operation with
  | read i => rw [perform_read]; rfl
  | write i word => rw [perform_write]; split <;> rfl

-- ---------------------------------------------------------------------------
-- Time
-- ---------------------------------------------------------------------------

def lapse : List Action → Nat
  | [] => 0
  | .access .. :: rest => lapse rest
  | .advance nanos :: rest => nanos + lapse rest

def cyclesOf (t : Timer) : Action → Nat
  | .access .. => 0
  | .advance nanos => (t.clock.advance nanos).1.toNat

def cyclesOver (t : Timer) : List Action → Nat
  | [] => 0
  | action :: rest => t.cyclesOf action + (t.act action).cyclesOver rest

theorem cyclesOver_append (t : Timer) (actions more : List Action) :
    t.cyclesOver (actions ++ more) = t.cyclesOver actions + (t.after actions).cyclesOver more := by
  induction actions generalizing t with
  | nil => exact (Nat.zero_add _).symm
  | cons action rest ih =>
    simp only [List.cons_append, cyclesOver, ih, Nat.add_assoc]
    rfl

theorem clock_access (t : Timer) (offset : UInt64) (size : AccessSize) (direction : Direction)
    (payload : UInt64) : (t.act (.access offset size direction payload)).clock = t.clock :=
  (kept_clock t.clock).access rfl offset size direction payload

-- ---------------------------------------------------------------------------
-- Undisturbed runs
-- ---------------------------------------------------------------------------

/-- The step of `nanos` brings as many cycles as can be added to the count in 64 bits. -/
def Fits (t : Timer) (nanos : Nat) : Prop :=
  t.position + t.clock.due nanos / nanosPerSecond < UInt64.size
deriving Decidable

theorem Fits.exact {nanos : Nat} (fits : t.Fits nanos) : t.clock.Exact nanos :=
  TickClock.exact_iff.2 <| (Nat.div_lt_iff_lt_mul (by decide)).1 <|
    Nat.lt_of_le_of_lt (Nat.le_add_left _ _) fits

theorem Fits.room {nanos : Nat} (fits : t.Fits nanos) :
    t.position + (t.clock.advance nanos).1.toNat < UInt64.size := by
  rwa [fits.exact.toNat_cycles]

structure CountsAlike (t u : Timer) : Prop where
  running : u.running = t.running
  single : u.single = t.single
  cnt : u.regs.get cnt = t.regs.get cnt
  psc : u.regs.get psc = t.regs.get psc
  arr : u.regs.get arr = t.regs.get arr
  phase : u.phase = t.phase

namespace CountsAlike

theorem prescale_eq (h : CountsAlike t u) : u.prescale = t.prescale := by
  rw [prescale, h.psc, prescale]

theorem span_eq (h : CountsAlike t u) : u.span = t.span := by
  rw [span, h.arr, span]

theorem position_eq (h : CountsAlike t u) : u.position = t.position := by
  rw [position, h.cnt, h.prescale_eq, h.phase, position]

end CountsAlike

/-- Firmware leaves the count alone, or time passes in a step that is not too long for it. -/
def Leaves (t : Timer) : Action → Prop
  | .access offset size direction payload =>
    CountsAlike t (t.act (.access offset size direction payload))
  | .advance nanos => t.Fits nanos

def Undisturbed (t : Timer) : List Action → Prop
  | [] => True
  | action :: rest => t.Leaves action ∧ (t.act action).Undisturbed rest

instance (t u : Timer) : Decidable (CountsAlike t u) :=
  decidable_of_iff (u.running = t.running ∧ u.single = t.single ∧
      u.regs.get cnt = t.regs.get cnt ∧ u.regs.get psc = t.regs.get psc ∧
        u.regs.get arr = t.regs.get arr ∧ u.phase = t.phase)
    ⟨fun ⟨a, b, c, d, e, f⟩ => ⟨a, b, c, d, e, f⟩,
      fun h => ⟨h.running, h.single, h.cnt, h.psc, h.arr, h.phase⟩⟩

instance (t : Timer) : (action : Action) → Decidable (t.Leaves action)
  | .access offset size direction payload =>
    inferInstanceAs (Decidable (CountsAlike t (t.act (.access offset size direction payload))))
  | .advance nanos => inferInstanceAs (Decidable (t.Fits nanos))

instance decidableUndisturbed : (t : Timer) → (actions : List Action) →
    Decidable (t.Undisturbed actions)
  | _, [] => .isTrue trivial
  | t, action :: rest =>
    have := decidableUndisturbed (t.act action) rest
    inferInstanceAs (Decidable (t.Leaves action ∧ (t.act action).Undisturbed rest))

theorem undisturbed_append (t : Timer) (actions more : List Action) :
    t.Undisturbed (actions ++ more) ↔
      t.Undisturbed actions ∧ (t.after actions).Undisturbed more := by
  induction actions generalizing t with
  | nil => simp [Undisturbed, after]
  | cons action rest ih =>
    simp only [List.cons_append, Undisturbed, ih, and_assoc]
    rfl

/-- The cycles and what is left of the last one make up the time that has passed. -/
theorem accounts (undisturbed : t.Undisturbed actions) :
    t.cyclesOver actions * nanosPerSecond + (t.after actions).clock.remainder.toNat =
      t.clock.due (lapse actions) := by
  induction actions generalizing t with
  | nil => simp [cyclesOver, after, lapse, TickClock.due]
  | cons action rest ih =>
    obtain ⟨leaves, later⟩ := undisturbed
    cases action with
    | access offset size direction payload =>
      have due := ih later
      rw [clock_access] at due
      simp only [cyclesOver, cyclesOf, Nat.zero_add]
      exact due
    | advance nanos =>
      have first := leaves.exact.due_advance (lapse rest)
      have due : (t.act (.advance nanos)).cyclesOver rest * nanosPerSecond +
          (t.after (.advance nanos :: rest)).clock.remainder.toNat =
            (t.clock.advance nanos).2.due (lapse rest) := by
        rw [← t.clock_advance]
        exact ih later
      simp only [cyclesOver, cyclesOf, Nat.add_mul, lapse]
      rw [← first, ← due]
      omega

end BoardSim.Timer
