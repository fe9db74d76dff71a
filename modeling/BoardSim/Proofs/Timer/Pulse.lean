import BoardSim.Proofs.Timer.Run

/-!
# Single pulses

A timer in one-pulse mode stops at its update event. It does so in the first step by which its
cycles and the phase that the prescaler started with make a period (`Pulse.endsAfter`). After reset
and after a forced update event the phase is zero, and the pulse is a full one. The end of a pulse
clears the counter and leaves the prescaler where it is, so a later pulse is shorter by the phase
that the one before has left (`pulseContract`).
-/

namespace BoardSim.Timer

variable {t u v : Timer} {actions : List Action} {cycles : Nat}

structure Pulse (t : Timer) : Prop where
  running : t.running = true
  single : t.single = true
  counter : t.regs.get cnt = 0

structure Stopped (t : Timer) : Prop where
  still : t.running = false
  counter : t.regs.get cnt = 0
  latched : t.latched = true

/-- As long as nothing but time moves the count, the timer runs, and it stops in the first step by
which `cycles` cycles have passed. -/
structure EndsAfter (t : Timer) (cycles : Nat) : Prop where
  runs : ∀ actions, t.Undisturbed actions → t.cyclesOver actions < cycles →
    (t.after actions).running = true
  stops : ∀ actions nanos, t.Undisturbed (actions ++ [.advance nanos]) →
    t.cyclesOver actions < cycles → cycles ≤ t.cyclesOver (actions ++ [.advance nanos]) →
      Stopped (t.after (actions ++ [.advance nanos]))

-- ---------------------------------------------------------------------------
-- Up to the end
-- ---------------------------------------------------------------------------

structure GoesOn (t u : Timer) (cycles : Nat) : Prop where
  running : u.running = true
  single : u.single = true
  prescale : u.prescale = t.prescale
  span : u.span = t.span
  position : u.position = t.position + cycles

theorem GoesOn.period (h : GoesOn t u cycles) : u.period = t.period := by
  rw [Timer.period, h.prescale, h.span, Timer.period]

theorem GoesOn.trans {first more : Nat} (h : GoesOn t u first) (h' : GoesOn u v more) :
    GoesOn t v (first + more) where
  running := h'.running
  single := h'.single
  prescale := h'.prescale.trans h.prescale
  span := h'.span.trans h.span
  position := by rw [h'.position, h.position, Nat.add_assoc]

section
variable (running : t.running = true) (single : t.single = true)
include running single

theorem goesOn_act {action : Action} (leaves : t.Leaves action)
    (early : t.cyclesOf action = 0 ∨ t.position + t.cyclesOf action < t.period) :
    GoesOn t (t.act action) (t.cyclesOf action) := by
  cases action with
  | access offset size direction payload =>
    exact ⟨leaves.running.trans running, leaves.single.trans single, leaves.prescale_eq,
      leaves.span_eq, leaves.position_eq⟩
  | advance nanos =>
    by_cases none : (t.clock.advance nanos).1 = 0
    · have still : t.act (.advance nanos) = { t with clock := (t.clock.advance nanos).2 } :=
        advance_of_idle (.inr none)
      rw [still, cyclesOf, none]
      exact ⟨running, single, rfl, rfl, rfl⟩
    · have some : (t.clock.advance nanos).1.toNat ≠ 0 :=
        fun zero => none (UInt64.toNat_inj.1 zero)
      have before : t.position + (t.clock.advance nanos).1.toNat < t.period :=
        early.resolve_left some
      have goes : ¬(t.single = true ∧
          t.period ≤ t.position + (t.clock.advance nanos).1.toNat) :=
        fun ends => Nat.not_le.2 before ends.2
      have step := counted_advance running none leaves.room
      exact {
        running := by rw [act, step.running_eq, running, decide_eq_false goes]; rfl
        single := step.single_eq.trans single
        prescale := step.prescale_eq
        span := step.span_eq
        position := (step.position_eq goes).trans (Nat.mod_eq_of_lt before) }

theorem goesOn_after (undisturbed : t.Undisturbed actions)
    (early : t.cyclesOver actions = 0 ∨ t.position + t.cyclesOver actions < t.period) :
    GoesOn t (t.after actions) (t.cyclesOver actions) := by
  induction actions generalizing t with
  | nil => exact ⟨running, single, rfl, rfl, rfl⟩
  | cons action rest ih =>
    obtain ⟨leaves, later⟩ := undisturbed
    simp only [cyclesOver] at early
    have first := goesOn_act running single leaves (by omega)
    refine first.trans (ih first.running first.single later ?_)
    rw [first.position, first.period]
    omega

/-- The step that brings the count to the period. -/
theorem counted_end {nanos : Nat} (fits : t.Fits nanos)
    (some : (t.clock.advance nanos).1.toNat ≠ 0)
    (late : t.period ≤ t.position + (t.clock.advance nanos).1.toNat) :
    Stopped (t.advance nanos).1 ∧ (t.advance nanos).1.phase.toNat =
      (t.position + (t.clock.advance nanos).1.toNat) % t.prescale := by
  have step := counted_advance running (mt (congrArg UInt64.toNat) some) fits.room
  refine ⟨⟨?_, ?_, ?_⟩, step.phase⟩
  · rw [step.running_eq, decide_eq_true ⟨single, late⟩]
    exact Bool.and_false _
  · rw [← UInt32.toNat_inj, step.cnt, if_pos ⟨single, late⟩]
    rfl
  · rw [step.latched_eq, decide_eq_true late]
    exact Bool.or_true _

/-- The end of a pulse, and what the prescaler has counted of it. -/
theorem stopped_after {nanos : Nat} (undisturbed : t.Undisturbed (actions ++ [.advance nanos]))
    (before : t.cyclesOver actions < max 1 (t.period - t.position))
    (past : max 1 (t.period - t.position) ≤ t.cyclesOver (actions ++ [.advance nanos])) :
    Stopped (t.after (actions ++ [.advance nanos])) ∧
      (t.after (actions ++ [.advance nanos])).phase.toNat =
        (t.position + t.cyclesOver (actions ++ [.advance nanos])) % t.prescale := by
  obtain ⟨earlier, fits, -⟩ := (t.undisturbed_append actions _).1 undisturbed
  have run := goesOn_after running single earlier (by omega)
  have total : t.cyclesOver (actions ++ [.advance nanos]) =
      t.cyclesOver actions + ((t.after actions).clock.advance nanos).1.toNat :=
    t.cyclesOver_append _ _
  rw [total] at past ⊢
  have position := run.position
  have period := run.period
  rw [after_append, ← Nat.add_assoc, ← position, ← run.prescale]
  exact counted_end run.running run.single fits (by omega) (by omega)

/-- The phase that the prescaler starts with is taken off the pulse; a cycle it takes at least. -/
theorem endsAfter_of_position : t.EndsAfter (max 1 (t.period - t.position)) where
  runs _ undisturbed before := (goesOn_after running single undisturbed (by omega)).running
  stops _ _ undisturbed before past :=
    (stopped_after running single undisturbed before past).1

end

theorem Pulse.position_eq (h : Pulse t) : t.position = t.phase.toNat := by
  rw [position, h.counter]
  simp

-- ---------------------------------------------------------------------------
-- Between two pulses
-- ---------------------------------------------------------------------------

/-- The timer is off whenever time passes, and no update event is forced. -/
def Rests (t : Timer) : List Action → Prop
  | [] => True
  | .access offset size direction payload :: rest =>
    (∀ operation ∈ Peripheral.operations t offset size direction payload,
      forces operation = false) ∧ (t.act (.access offset size direction payload)).Rests rest
  | .advance nanos :: rest => t.running = false ∧ (t.act (.advance nanos)).Rests rest

instance decidableRests : (t : Timer) → (actions : List Action) → Decidable (t.Rests actions)
  | _, [] => .isTrue trivial
  | t, .access offset size direction payload :: rest =>
    have := decidableRests (t.act (.access offset size direction payload)) rest
    inferInstanceAs (Decidable (_ ∧ _))
  | t, .advance nanos :: rest =>
    have := decidableRests (t.act (.advance nanos)) rest
    inferInstanceAs (Decidable (_ ∧ _))

theorem phase_access {offset : UInt64} {size : AccessSize} {direction : Direction}
    {payload : UInt64} (unforced : ∀ operation ∈
      Peripheral.operations t offset size direction payload, forces operation = false) :
    (t.act (.access offset size direction payload)).phase = t.phase := by
  refine Peripheral.access_induction
    (R := fun t u operations => (∀ operation ∈ operations, forces operation = false) →
      u.phase = t.phase)
    t offset size direction payload (fun _ _ => rfl) (fun t _ operation _ rest h => ?_) unforced
  obtain ⟨first, later⟩ := List.forall_mem_cons.1 h
  rw [rest later, phase_perform, if_neg (Bool.eq_false_iff.1 first)]

/-- Between two pulses the prescaler keeps its phase. -/
theorem Rests.phase (rests : t.Rests actions) : (t.after actions).phase = t.phase := by
  induction actions generalizing t with
  | nil => rfl
  | cons action rest ih =>
    cases action with
    | access offset size direction payload => exact (ih rests.2).trans (phase_access rests.1)
    | advance nanos =>
      refine (ih rests.2).trans ?_
      show (t.advance nanos).1.phase = t.phase
      rw [advance_of_idle (.inl rests.1)]

inductive Fresh : Timer → Prop where
  | reset (hz : UInt64) : Fresh (withClock hz)
  | event (t : Timer) {word : UInt32} (forced : anySet word ug = true) : Fresh (t.commit egr word)

theorem Fresh.phase (h : Fresh u) : u.phase = 0 := by
  cases h with
  | reset hz => rfl
  | event t forced => rw [commit, if_pos ⟨rfl, forced⟩, generate]

-- ---------------------------------------------------------------------------
-- The contract
-- ---------------------------------------------------------------------------

/-- A pulse that starts in `t`; the prescaler has last been at work when the timer was `u`. -/
structure PulseContract (u t : Timer) : Prop where
  ends : t.EndsAfter (max 1 (t.period - u.phase.toNat))
  fresh : Fresh u → t.EndsAfter t.period
  /-- The pulse is a full one, at whatever rate, in no other case. -/
  full : (∀ clock, ({ t with clock } : Timer).EndsAfter t.period) ↔ u.phase = 0 ∨ t.period = 1
  phase : ∀ actions nanos, t.Undisturbed (actions ++ [.advance nanos]) →
    t.cyclesOver actions < max 1 (t.period - u.phase.toNat) →
      max 1 (t.period - u.phase.toNat) ≤ t.cyclesOver (actions ++ [.advance nanos]) →
        (t.after (actions ++ [.advance nanos])).phase.toNat =
          (u.phase.toNat + t.cyclesOver (actions ++ [.advance nanos])) % t.prescale

theorem Narrow.period_le (h : t.Narrow) : t.period ≤ 65536 * 65536 :=
  Nat.mul_le_mul (show t.prescale ≤ 65536 from h.words.psc) (show t.span ≤ 65536 from h.words.arr)

theorem Pulse.endsAfter (h : Pulse t) : t.EndsAfter (max 1 (t.period - t.phase.toNat)) :=
  h.position_eq ▸ endsAfter_of_position h.running h.single

def gigahertz : TickClock := { hz := 1000000000 }

theorem due_gigahertz (nanos : Nat) : gigahertz.due nanos / nanosPerSecond = nanos := by
  have rate : gigahertz.hz.toNat = nanosPerSecond := rfl
  have none : gigahertz.remainder.toNat = 0 := rfl
  rw [TickClock.due, rate, none, Nat.add_zero]
  exact Nat.mul_div_cancel _ (by decide)

/-- At a gigahertz a step can end a shortened pulse before its period is over. -/
theorem Pulse.not_endsAfter_period (h : Pulse t) (narrow : t.Narrow) (clock : t.clock = gigahertz)
    (started : t.phase ≠ 0) (longer : t.period ≠ 1) : ¬t.EndsAfter t.period := by
  intro full
  have positive := t.period_pos
  have phase : t.phase.toNat ≠ 0 := fun zero => started (UInt32.toNat_inj.1 zero)
  obtain ⟨cycles, hcycles⟩ : ∃ cycles, max 1 (t.period - t.phase.toNat) = cycles := ⟨_, rfl⟩
  have due : t.clock.due cycles / nanosPerSecond = cycles := by rw [clock, due_gigahertz]
  have fits : t.Fits cycles := by
    have small := narrow.period_le
    have few := narrow.phase
    rw [Fits, due, h.position_eq]
    unfold UInt64.size
    omega
  have undisturbed : t.Undisturbed ([] ++ [.advance cycles]) := ⟨fits, trivial⟩
  have total : t.cyclesOver ([] ++ [.advance cycles]) = cycles :=
    fits.exact.toNat_cycles.trans due
  have stopped := h.endsAfter.stops [] cycles undisturbed (by show 0 < _; omega) (by omega)
  have running := full.runs _ undisturbed (by omega)
  exact Bool.false_ne_true (stopped.still.symm.trans running)

theorem Pulse.full_iff (h : Pulse t) (narrow : t.Narrow) :
    (∀ clock, ({ t with clock } : Timer).EndsAfter t.period) ↔ t.phase = 0 ∨ t.period = 1 := by
  have again (clock : TickClock) : Pulse { t with clock } := ⟨h.running, h.single, h.counter⟩
  constructor
  · intro full
    by_contra shortened
    obtain ⟨started, longer⟩ := not_or.1 shortened
    exact (again gigahertz).not_endsAfter_period ⟨narrow.phase, narrow.words⟩ rfl started longer
      (full gigahertz)
  · intro whole clock
    have cycles : max 1 (t.period - t.phase.toNat) = t.period := by
      rcases whole with zero | one
      · rw [zero]
        exact max_eq_right t.period_pos
      · omega
    have ends := (again clock).endsAfter
    exact cycles ▸ ends

theorem pulseContract (narrow : u.Narrow) (rests : u.Rests actions)
    (pulse : Pulse (u.after actions)) : PulseContract u (u.after actions) := by
  have kept := rests.phase
  have full := pulse.full_iff (narrow.after actions)
  exact {
    ends := by
      rw [← kept]
      exact pulse.endsAfter
    fresh := fun fresh => full.2 (.inl (kept.trans fresh.phase)) (u.after actions).clock
    full := by rwa [← kept]
    phase := fun _ _ undisturbed before past => by
      rw [← kept, ← pulse.position_eq] at before past ⊢
      exact (stopped_after pulse.running pulse.single undisturbed before past).2 }

def preparing : List Action :=
  [.access 0x28 .word .write 9, .access 0x2C .word .write 4]

def starting : List Action := [.access 0x00 .word .write (cen ||| opm).toUInt64]

def firstPulse : List Action := preparing ++ starting ++ [.advance 57000]

theorem pulseContract_second :
    let u := (withClock defaultHz).after firstPulse
    let t := u.after starting
    PulseContract (withClock defaultHz) ((withClock defaultHz).after (preparing ++ starting)) ∧
      u.phase = 7 ∧ PulseContract u t ∧ t.period = 50 ∧ t.EndsAfter 43 := by
  have reset := narrow_withClock defaultHz
  have first := pulseContract reset
    (show Rests _ (preparing ++ starting) by decide +kernel)
    ⟨by decide +kernel, by decide +kernel, by decide +kernel⟩
  have second := pulseContract (reset.after firstPulse)
    (show Rests _ starting by decide +kernel)
    ⟨by decide +kernel, by decide +kernel, by decide +kernel⟩
  exact ⟨first, by decide +kernel, second, by decide +kernel, second.ends⟩

/-- The second pulse, started like the first, is no longer a full one. -/
theorem not_endsAfter_of_second :
    let t := (withClock defaultHz).after (firstPulse ++ starting)
    Pulse t ∧ t.period = 50 ∧ ¬t.EndsAfter t.period := by
  intro t
  refine ⟨⟨by decide +kernel, by decide +kernel, by decide +kernel⟩, by decide +kernel, ?_⟩
  intro full
  have running := full.runs [.advance 43000] (by decide +kernel) (by decide +kernel)
  have still : (t.after [.advance 43000]).running = false := by decide +kernel
  exact Bool.false_ne_true (still.symm.trans running)

end BoardSim.Timer
