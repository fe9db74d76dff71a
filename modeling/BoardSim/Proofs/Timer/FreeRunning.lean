import BoardSim.Proofs.Timer.Run

/-!
# A free-running timer

A timer that runs without stopping is one counter modulo its period. Two steps of time are one step
of the sum (`Counted.trans`), so the cut of simulated time into steps does not matter, and an update
event comes whenever the cycles since the start pass a multiple of the period
(`freeRunning_counterContract`).
-/

namespace BoardSim.Timer

variable {t u v : Timer} {sum : Nat}

/-- The timer runs, and the counter and the phase are where counting can bring them. -/
structure FreeRunning (t : Timer) : Prop where
  running : t.running = true
  repeats : t.single = false
  counter : t.regs.get cnt ≤ t.regs.get arr
  phase : t.phase ≤ t.regs.get psc

namespace FreeRunning

theorem counter_lt (h : FreeRunning t) : (t.regs.get cnt).toNat < t.span :=
  Nat.lt_succ_of_le (UInt32.le_iff_toNat_le.1 h.counter)

theorem phase_lt (h : FreeRunning t) : t.phase.toNat < t.prescale :=
  Nat.lt_succ_of_le (UInt32.le_iff_toNat_le.1 h.phase)

theorem not_ends (h : FreeRunning t) (sum : Nat) : ¬(t.single = true ∧ t.period ≤ sum) := by
  rw [h.repeats]
  exact fun ends => Bool.false_ne_true ends.1

theorem position_mod (h : FreeRunning t) : t.position % t.prescale = t.phase.toNat := by
  rw [position, Nat.mul_comm, Nat.mul_add_mod, Nat.mod_eq_of_lt h.phase_lt]

theorem position_div (h : FreeRunning t) : t.position / t.prescale = (t.regs.get cnt).toNat := by
  rw [position, Nat.mul_comm, Nat.mul_add_div t.prescale_pos, Nat.div_eq_of_lt h.phase_lt,
    Nat.add_zero]

theorem position_lt (h : FreeRunning t) : t.position < t.period := by
  rw [period, Nat.mul_comm, ← Nat.div_lt_iff_lt_mul t.prescale_pos, h.position_div]
  exact h.counter_lt

/-- No cycle at all. -/
theorem counted_refl (h : FreeRunning t) : Counted t t t.position where
  phase := h.position_mod.symm
  cnt := by rw [if_neg (h.not_ends _), h.position_div, Nat.mod_eq_of_lt h.counter_lt]
  status := by rw [if_neg (Nat.not_le.2 h.position_lt), UInt32.or_zero]
  control := by rw [if_neg (h.not_ends _)]; simp
  others _ _ _ _ := rfl

/-- A step of any number of cycles, none included. -/
theorem counted (h : FreeRunning t) {nanos : Nat}
    (room : t.position + (t.clock.advance nanos).1.toNat < UInt64.size) :
    Counted t (t.advance nanos).1 (t.position + (t.clock.advance nanos).1.toNat) := by
  by_cases none : (t.clock.advance nanos).1 = 0
  · have still := h.counted_refl
    rw [advance_of_idle (.inr none), none]
    exact ⟨still.phase, still.cnt, still.status, still.control, still.others⟩
  · exact counted_advance h.running none room

end FreeRunning

namespace Counted

theorem freeRunning (h : Counted t u sum) (free : FreeRunning t) : FreeRunning u where
  running := by simp [h.running_eq, free.running, free.repeats]
  repeats := h.single_eq.trans free.repeats
  counter := by
    rw [UInt32.le_iff_toNat_le, h.cnt, if_neg (free.not_ends sum),
      h.others arr (by decide) (by decide) (by decide)]
    exact Nat.le_of_lt_succ (Nat.mod_lt _ (Nat.succ_pos _))
  phase := by
    rw [UInt32.le_iff_toNat_le, h.phase, h.others psc (by decide) (by decide) (by decide)]
    exact Nat.le_of_lt_succ (Nat.mod_lt _ t.prescale_pos)

/-- A step after a step is one step of all the cycles. -/
theorem trans (h : Counted t u sum) (free : FreeRunning t) {cycles : Nat}
    (h' : Counted u v (u.position + cycles)) : Counted t v (sum + cycles) := by
  have position := h.position_eq (free.not_ends sum)
  have same : (u.position + cycles) % t.period = (sum + cycles) % t.period := by
    rw [position, Nat.mod_add_mod]
  have free' := h.freeRunning free
  -- both digits can be told from the position modulo the period
  have low (n : Nat) : n % t.prescale = n % t.period % t.prescale :=
    (Nat.mod_mul_right_mod n t.prescale t.span).symm
  have high (n : Nat) : n / t.prescale % t.span = n % t.period / t.prescale :=
    (Nat.mod_mul_right_div_self n t.prescale t.span).symm
  have passed : t.period ≤ sum + cycles ↔
      t.period ≤ sum ∨ t.period ≤ sum % t.period + cycles := by
    by_cases early : sum < t.period
    · rw [Nat.mod_eq_of_lt early]
      omega
    · omega
  exact {
    phase := by rw [h'.phase, h.prescale_eq, low, same, ← low]
    cnt := by
      rw [h'.cnt, if_neg (free'.not_ends _), if_neg (free.not_ends _), h.prescale_eq, h.span_eq,
        high, same, ← high]
    status := by
      rw [h'.status, h.status, h.period_eq, UInt32.or_assoc, position, ← ite_or_ite uif passed]
    control := by
      rw [h'.control, h.control, if_neg (free'.not_ends _), if_neg (free.not_ends _),
        if_neg (free.not_ends _)]
      simp
    others := fun i control status counter =>
      (h'.others i control status counter).trans (h.others i control status counter) }

/-- The cycles and the clock say all there is to say about the timer. -/
theorem eq_of_clock (h : Counted t u sum) (h' : Counted t v sum) (clock : u.clock = v.clock) :
    u = v := by
  have phase : u.phase = v.phase := UInt32.toNat_inj.1 (h.phase.trans h'.phase.symm)
  have regs : u.regs = v.regs := by
    refine RegisterFile.ext_get fun i _ => ?_
    by_cases control : cr1 = i
    · rw [← control, h.control, h'.control]
    by_cases status : sr = i
    · rw [← status, h.status, h'.status]
    by_cases counter : Timer.cnt = i
    · rw [← counter]
      exact UInt32.toNat_inj.1 (h.cnt.trans h'.cnt.symm)
    · rw [h.others i control status counter, h'.others i control status counter]
  obtain ⟨_, _, _⟩ := u
  obtain ⟨_, _, _⟩ := v
  cases clock
  cases phase
  cases regs
  rfl

end Counted

-- ---------------------------------------------------------------------------
-- A run
-- ---------------------------------------------------------------------------

structure RunsOn (t u : Timer) (cycles : Nat) : Prop where
  free : FreeRunning u
  period : u.period = t.period
  position : u.position = (t.position + cycles) % t.period

theorem RunsOn.trans {first more : Nat} (h : RunsOn t u first) (h' : RunsOn u v more) :
    RunsOn t v (first + more) where
  free := h'.free
  period := h'.period.trans h.period
  position := by rw [h'.position, h.period, h.position, Nat.mod_add_mod, Nat.add_assoc]

namespace FreeRunning

variable {actions : List Action}

theorem runsOn_refl (h : FreeRunning t) : RunsOn t t 0 :=
  ⟨h, rfl, (Nat.mod_eq_of_lt h.position_lt).symm⟩

theorem of_countsAlike (h : FreeRunning t) (alike : CountsAlike t u) : FreeRunning u where
  running := alike.running.trans h.running
  repeats := alike.single.trans h.repeats
  counter := by rw [alike.cnt, alike.arr]; exact h.counter
  phase := by rw [alike.phase, alike.psc]; exact h.phase

theorem runsOn_act (h : FreeRunning t) {action : Action} (leaves : t.Leaves action) :
    RunsOn t (t.act action) (t.cyclesOf action) := by
  cases action with
  | access offset size direction payload =>
    refine ⟨h.of_countsAlike leaves, ?_, ?_⟩
    · rw [period, leaves.prescale_eq, leaves.span_eq, period]
    · rw [leaves.position_eq, cyclesOf, Nat.add_zero, Nat.mod_eq_of_lt h.position_lt]
  | advance nanos =>
    have step := h.counted leaves.room
    exact ⟨step.freeRunning h, step.period_eq, step.position_eq (h.not_ends _)⟩

theorem runsOn_after (h : FreeRunning t) (undisturbed : t.Undisturbed actions) :
    RunsOn t (t.after actions) (t.cyclesOver actions) := by
  induction actions generalizing t with
  | nil => exact h.runsOn_refl
  | cons action rest ih =>
    have first := h.runsOn_act undisturbed.1
    exact first.trans (ih first.free undisturbed.2)

end FreeRunning

/-- An update event comes when the cycles pass a multiple of the period. -/
theorem RunsOn.latched_advance {nanos cycles : Nat} (before : RunsOn t u cycles)
    (room : u.position + (u.clock.advance nanos).1.toNat < UInt64.size) :
    (u.advance nanos).1.latched = true ↔ u.latched = true ∨
      (t.position + cycles) / t.period <
        (t.position + (cycles + (u.clock.advance nanos).1.toNat)) / t.period := by
  have passed (n k : Nat) : t.period ≤ n % t.period + k ↔ n / t.period < (n + k) / t.period := by
    have split : (n + k) / t.period = n / t.period + (n % t.period + k) / t.period := by
      rw [← Nat.mul_add_div t.period_pos, ← Nat.add_assoc, Nat.div_add_mod]
    rw [split, Nat.lt_add_right_iff_pos, Nat.div_pos_iff]
    exact ⟨fun le => ⟨t.period_pos, le⟩, And.right⟩
  rw [(before.free.counted room).latched_eq, Bool.or_eq_true, decide_eq_true_iff, before.period,
    before.position, passed, Nat.add_assoc]

-- ---------------------------------------------------------------------------
-- Time alone
-- ---------------------------------------------------------------------------

def steps (spans : List Nat) : List Action := spans.map .advance

theorem lapse_steps (spans : List Nat) : lapse (steps spans) = spans.sum := by
  induction spans with
  | nil => rfl
  | cons nanos rest ih => exact congrArg (nanos + ·) ih

theorem hz_after_steps (t : Timer) (spans : List Nat) :
    (t.after (steps spans)).clock.hz = t.clock.hz := by
  induction spans generalizing t with
  | nil => rfl
  | cons nanos rest ih => exact (ih _).trans (by rw [act, clock_advance, TickClock.hz_advance])

theorem remainder_after_steps (t : Timer) {spans : List Nat} (some : spans ≠ []) :
    (t.after (steps spans)).clock.remainder.toNat < nanosPerSecond := by
  obtain ⟨first, last, rfl⟩ := (List.eq_nil_or_concat spans).resolve_left some
  rw [steps, List.concat_eq_append, List.map_append, after_append]
  show (((t.after (steps first)).advance last).1).clock.remainder.toNat < nanosPerSecond
  rw [clock_advance]
  exact TickClock.remainder_advance_lt _ _

theorem FreeRunning.counted_after (h : FreeRunning t) {spans : List Nat}
    (fits : t.Undisturbed (steps spans)) :
    Counted t (t.after (steps spans)) (t.position + t.cyclesOver (steps spans)) := by
  induction spans generalizing t with
  | nil => exact h.counted_refl
  | cons nanos rest ih =>
    obtain ⟨now, later⟩ := fits
    have first := h.counted now.room
    have all := first.trans h (ih (first.freeRunning h) later)
    rwa [Nat.add_assoc] at all

/-- Of two ways of cutting a time into steps each leads to the same timer. -/
theorem FreeRunning.after_eq_after (h : FreeRunning t) {first second : List Nat}
    (some : first ≠ []) (some' : second ≠ []) (same : first.sum = second.sum)
    (fits : t.Undisturbed (steps first)) (fits' : t.Undisturbed (steps second)) :
    t.after (steps first) = t.after (steps second) := by
  have accounts := t.accounts fits
  have accounts' := t.accounts fits'
  rw [lapse_steps] at accounts accounts'
  rw [← same, ← accounts] at accounts'
  have left := t.remainder_after_steps some
  have left' := t.remainder_after_steps some'
  unfold nanosPerSecond at accounts' left left'
  have cycles : t.cyclesOver (steps first) = t.cyclesOver (steps second) := by omega
  have remainder : (t.after (steps first)).clock.remainder =
      (t.after (steps second)).clock.remainder := UInt64.toNat_inj.1 (by omega)
  have clock : (t.after (steps first)).clock = (t.after (steps second)).clock := by
    have hz := (t.hz_after_steps first).trans (t.hz_after_steps second).symm
    revert hz remainder
    cases (t.after (steps first)).clock
    cases (t.after (steps second)).clock
    rintro ⟨⟩ ⟨⟩
    rfl
  exact (h.counted_after fits).eq_of_clock (cycles ▸ h.counted_after fits') clock

-- ---------------------------------------------------------------------------
-- The contract
-- ---------------------------------------------------------------------------

structure StepContract (t : Timer) (nanos : Nat) : Prop where
  free : FreeRunning (t.advance nanos).1
  position : (t.advance nanos).1.position =
    (t.position + (t.clock.advance nanos).1.toNat) % t.period
  latched : (t.advance nanos).1.latched = true ↔
    t.latched = true ∨ t.period ≤ t.position + (t.clock.advance nanos).1.toNat
  flags : (t.advance nanos).1.regs.get sr &&& ~~~uif = t.regs.get sr &&& ~~~uif
  others : ∀ i, i ≠ cnt → i ≠ sr → (t.advance nanos).1.regs.get i = t.regs.get i
  requests : (t.advance nanos).2 = .line
    ((t.advance nanos).1.latched && anySet ((t.advance nanos).1.regs.get dier) uie)

structure CounterContract (t : Timer) : Prop where
  /-- However many cycles a step has, if only they fit into 64 bits with those of the count. -/
  step : ∀ nanos, t.position + (t.clock.advance nanos).1.toNat < UInt64.size → StepContract t nanos
  split : ∀ first second : List Nat, first ≠ [] → second ≠ [] → first.sum = second.sum →
    t.Undisturbed (steps first) → t.Undisturbed (steps second) →
      t.after (steps first) = t.after (steps second)
  accounts : ∀ actions, t.Undisturbed actions →
    t.cyclesOver actions * nanosPerSecond + (t.after actions).clock.remainder.toNat =
      t.clock.due (lapse actions)
  events : ∀ actions nanos, t.Undisturbed (actions ++ [.advance nanos]) →
    (((t.after actions).advance nanos).1.latched = true ↔ (t.after actions).latched = true ∨
      (t.position + t.cyclesOver actions) / t.period <
        (t.position + t.cyclesOver (actions ++ [.advance nanos])) / t.period)

theorem FreeRunning.stepContract (h : FreeRunning t) {nanos : Nat}
    (room : t.position + (t.clock.advance nanos).1.toNat < UInt64.size) :
    StepContract t nanos := by
  have step := h.counted room
  exact {
    free := step.freeRunning h
    position := step.position_eq (h.not_ends _)
    latched := by rw [step.latched_eq, Bool.or_eq_true, decide_eq_true_iff]
    flags := by
      rw [step.status]
      split
      · exact or_and_not _ _
      · rw [UInt32.or_zero]
    others := fun i counter status => by
      by_cases control : cr1 = i
      · rw [← control, step.control, if_neg (h.not_ends _)]
        simp
      · exact step.others i control (Ne.symm status) (Ne.symm counter)
    requests := snd_advance _ _ }

theorem freeRunning_counterContract (h : FreeRunning t) : CounterContract t where
  step _ := h.stepContract
  split _ _ := h.after_eq_after
  accounts _ := t.accounts
  events actions nanos undisturbed := by
    obtain ⟨before, last, -⟩ := (t.undisturbed_append actions _).1 undisturbed
    rw [t.cyclesOver_append]
    exact (h.runsOn_after before).latched_advance last.room

/-- Seven cycles into a period of twelve, at a cycle for each microsecond. -/
def midway : Timer where
  regs := (((((RegisterFile.reset _).set cr1 cen).set dier uie).set psc 2).set arr 3).set cnt 2
  phase := 1

/-- Ten microseconds, at once or with a read of the status in between. -/
theorem freeRunning_counterContract_midway :
    FreeRunning midway ∧ midway.position = 7 ∧ midway.period = 12 ∧
      (midway.advance 10000).1.position = 5 ∧ (midway.advance 10000).1.latched = true ∧
      midway.after (steps [10000]) = midway.after (steps [2500, 7500]) ∧
      ((midway.after [.advance 2500, .access 0x10 .half .read 0]).advance 7500).1.latched =
        true := by
  have free : FreeRunning midway := ⟨by decide, by decide, by decide, by decide⟩
  have contract := freeRunning_counterContract free
  have step := contract.step 10000 (by decide)
  have position : midway.position = 7 := by decide
  have period : midway.period = 12 := by decide
  have cycles : (midway.clock.advance 10000).1.toNat = 10 := by decide
  refine ⟨free, position, period, ?_, step.latched.2 (.inr ?_), ?_, ?_⟩
  · rw [step.position, position, period, cycles]
  · rw [position, period, cycles]
    decide
  · exact contract.split _ _ (by decide) (by decide) rfl (by decide) (by decide)
  · refine (contract.events [.advance 2500, .access 0x10 .half .read 0] 7500
      (by decide)).2 (.inr ?_)
    rw [position, period]
    decide

end BoardSim.Timer
