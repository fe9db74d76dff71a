import BoardSim.Peripheral.SysTick
import BoardSim.Proofs.Peripheral.Bits
import BoardSim.Proofs.Peripheral.Countdown

/-!
# The system tick, cycle by cycle

`Counter.step` is one cycle of a counter that counts down and reloads from zero. A step of time,
however long, is as many of these as cycles pass in it, and requests the interrupt exactly if one
of them reloads the counter (`steps_advance`). So how simulated time is cut into steps does not
matter: the cycles of all of them are made one after the other (`after_eq_steps`).
-/

namespace BoardSim.SysTick

-- ---------------------------------------------------------------------------
-- One cycle
-- ---------------------------------------------------------------------------

/-- What counts: the value, and whether it has been reloaded since the flag was cleared. -/
structure Counter where
  value : Nat
  flag : Bool
deriving DecidableEq

namespace Counter

/-- The next cycle reloads the counter. A reload value of zero keeps it at zero. -/
def Reloads (reload : Nat) (c : Counter) : Prop := c.value = 0 ∧ reload ≠ 0
deriving Decidable

def step (reload : Nat) (c : Counter) : Counter :=
  if c.Reloads reload then { value := reload, flag := true } else { c with value := c.value - 1 }

variable {reload : Nat}

def reloaded (c : Counter) (reloads value : Nat) : Counter where
  value := value
  flag := c.flag || reloads != 0

theorem reloaded_zero (c : Counter) : c.reloaded 0 c.value = c := by
  simp [reloaded]

theorem step_down (reload : Nat) (c : Counter) (reloads value : Nat) (_ : value + 1 < UInt32.size) :
    step reload (c.reloaded reloads (value + 1)) = c.reloaded reloads value := by
  simp [step, Reloads, reloaded]

theorem step_wrap (positive : reload ≠ 0) (c : Counter) (reloads : Nat) :
    step reload (c.reloaded reloads 0) = c.reloaded (reloads + 1) reload := by
  simp [step, Reloads, reloaded, positive]

/-- Until it has passed zero, the counter counts down. -/
theorem iterate_step_of_le {c : Counter} (narrow : c.value < UInt32.size) {k : Nat}
    (short : k ≤ c.value) : (step reload)^[k] c = { c with value := c.value - k } := by
  have counted := Countdown.iterate_of_le (step_down reload c) 0 narrow short
  rw [reloaded_zero] at counted
  rw [counted]
  simp [reloaded]

/-- Without a reload value it stays at zero. -/
theorem iterate_step_of_zero (c : Counter) (k : Nat) :
    (step 0)^[k] c = { c with value := c.value - k } := by
  induction k with
  | zero => rfl
  | succ k ih =>
    rw [Function.iterate_succ_apply', ih]
    simp [step, Reloads, Nat.sub_add_eq]

/-- Once it has passed zero, a round takes one cycle more than the reload value. -/
theorem iterate_step_past_zero (positive : reload ≠ 0) (reload_lt : reload < UInt32.size)
    {c : Counter} (narrow : c.value < UInt32.size) (past : Nat) :
    (step reload)^[c.value + 1 + past] c =
      { value := reload - past % (reload + 1), flag := true } := by
  have counted := Countdown.iterate_past_zero (step_down reload c) (step_wrap positive c)
    reload_lt 0 narrow past
  rw [reloaded_zero] at counted
  rw [counted]
  simp [reloaded]

theorem exists_reloads_iff (reload : Nat) {c : Counter} (narrow : c.value < UInt32.size) (k : Nat) :
    (∃ j < k, ((step reload)^[j] c).Reloads reload) ↔ c.value < k ∧ reload ≠ 0 := by
  constructor
  · rintro ⟨j, early, zero, positive⟩
    refine ⟨?_, positive⟩
    by_contra long
    rw [iterate_step_of_le narrow (by omega)] at zero
    have left : c.value - j = 0 := zero
    omega
  · rintro ⟨past, positive⟩
    refine ⟨c.value, past, ?_, positive⟩
    rw [iterate_step_of_le narrow (Nat.le_refl _)]
    exact Nat.sub_self _

end Counter

-- ---------------------------------------------------------------------------
-- One step of time
-- ---------------------------------------------------------------------------

def counter (s : SysTick) : Counter where
  value := (s.regs.get cvr).toNat
  flag := anySet (s.regs.get csr) countflag

def reload (s : SysTick) : Nat := (s.regs.get rvr).toNat

structure OnlyCounts (s t : SysTick) : Prop where
  control : t.regs.get csr &&& ~~~countflag = s.regs.get csr &&& ~~~countflag
  reload : t.regs.get rvr = s.regs.get rvr
  calibration : t.regs.get calib = s.regs.get calib

theorem clock_advance (s : SysTick) (nanos : Nat) :
    (s.advance nanos).1.clock = (s.clock.advance nanos).2 := by
  simp only [advance, count]
  split
  · rfl
  · split
    · rfl
    · split <;> rfl

structure Steps (s : SysTick) (cycles : Nat) (t : SysTick) (result : TickResult) : Prop where
  counter : t.counter = (Counter.step s.reload)^[cycles] s.counter
  rest : OnlyCounts s t
  explicit : result.explicit = []
  irq : result.irq = true ↔ anySet (s.regs.get csr) tickint = true ∧
    ∃ j < cycles, ((Counter.step s.reload)^[j] s.counter).Reloads s.reload

section
variable {s : SysTick}

theorem value_lt (s : SysTick) : s.counter.value < UInt32.size := (s.regs.get cvr).toNat_lt

theorem reload_lt (s : SysTick) : s.reload < UInt32.size := (s.regs.get rvr).toNat_lt

/-- The value moves, and nothing else does. -/
theorem steps_of_set {cycles : Nat} {value : UInt32}
    (counted : (Counter.step s.reload)^[cycles] s.counter =
      { s.counter with value := value.toNat })
    (quiet : ¬∃ j < cycles, ((Counter.step s.reload)^[j] s.counter).Reloads s.reload) :
    Steps s cycles { s with regs := s.regs.set cvr value } .quiet where
  counter := by
    rw [counted]
    unfold counter
    rw [s.regs.get_set (by decide), s.regs.get_set_ne (by decide)]
  rest := {
    control := by rw [s.regs.get_set_ne (by decide)]
    reload := s.regs.get_set_ne (by decide) _
    calibration := s.regs.get_set_ne (by decide) _ }
  explicit := rfl
  irq := ⟨nofun, fun requested => absurd requested.2 quiet⟩

/-- The value moves past zero. -/
theorem steps_of_reload {cycles : Nat} {value : UInt32}
    (counted : (Counter.step s.reload)^[cycles] s.counter = ⟨value.toNat, true⟩)
    (reloads : ∃ j < cycles, ((Counter.step s.reload)^[j] s.counter).Reloads s.reload) :
    Steps s cycles { s with regs := (s.regs.set cvr value).setBits csr countflag }
      (.line (anySet (s.regs.get csr) tickint)) where
  counter := by
    rw [counted]
    unfold counter
    rw [RegisterFile.get_setBits_ne _ _ (by decide), s.regs.get_set (by decide),
      RegisterFile.get_setBits _ (by decide), anySet_or, Counter.mk.injEq]
    exact ⟨rfl, by rw [show anySet countflag countflag = true by decide, Bool.or_true]⟩
  rest := {
    control := by
      rw [RegisterFile.get_setBits _ (by decide), s.regs.get_set_ne (by decide), or_and_not]
    reload := by
      rw [RegisterFile.get_setBits_ne _ _ (by decide), s.regs.get_set_ne (by decide)]
    calibration := by
      rw [RegisterFile.get_setBits_ne _ _ (by decide), s.regs.get_set_ne (by decide)] }
  explicit := rfl
  irq := ⟨fun requested => ⟨requested, reloads⟩, And.left⟩

theorem steps_count (s : SysTick) (cycles : UInt64) :
    Steps s cycles.toNat (s.count cycles).1 (s.count cycles).2 := by
  have narrow := s.value_lt
  have reloads := Counter.exists_reloads_iff s.reload narrow cycles.toNat
  have short_iff : cycles ≤ (s.regs.get cvr).toUInt64 ↔ cycles.toNat ≤ s.counter.value := by
    rw [UInt64.le_iff_toNat_le, UInt32.toNat_toUInt64, counter]
  have none_iff : (s.regs.get rvr).toUInt64 = 0 ↔ s.reload = 0 := by
    rw [← UInt64.toNat_inj, UInt32.toNat_toUInt64, reload]
    rfl
  unfold count
  simp only [short_iff, none_iff]
  split
  · next short =>
    rw [Countdown.toUInt32_left (s.regs.get cvr) short]
    refine steps_of_set ?_ fun reloaded => absurd (reloads.1 reloaded).1 (Nat.not_lt.2 short)
    have left : (UInt32.ofNat (s.counter.value - cycles.toNat)).toNat =
        s.counter.value - cycles.toNat :=
      UInt32.toNat_ofNat_of_lt' (Nat.lt_of_le_of_lt (Nat.sub_le _ _) narrow)
    exact (Counter.iterate_step_of_le narrow short).trans (by rw [← left]; rfl)
  · next long =>
    split
    · next none =>
      refine steps_of_set ?_ fun reloaded => (reloads.1 reloaded).2 none
      rw [none, Counter.iterate_step_of_zero, Nat.sub_eq_zero_of_le (Nat.le_of_not_le long)]
      rfl
    · next positive =>
      obtain ⟨past, total⟩ : ∃ past, cycles.toNat = s.counter.value + 1 + past :=
        ⟨cycles.toNat - (s.counter.value + 1), by omega⟩
      have fits : past < UInt64.size := Nat.lt_of_le_of_lt (by omega) cycles.toNat_lt
      rw [Countdown.sub_sub_one (s.regs.get cvr) total, Countdown.toUInt32_round _ fits]
      refine steps_of_reload ?_ (reloads.2 ⟨by omega, positive⟩)
      have left : (UInt32.ofNat (s.reload - past % (s.reload + 1))).toNat =
          s.reload - past % (s.reload + 1) :=
        UInt32.toNat_ofNat_of_lt' (Nat.lt_of_le_of_lt (Nat.sub_le _ _) s.reload_lt)
      rw [total, Counter.iterate_step_past_zero positive s.reload_lt narrow]
      exact congrArg (Counter.mk · true) left.symm

/-- A step of time is as many cycles as pass in it, whatever the counter and its reload value. -/
theorem steps_advance (running : anySet (s.regs.get csr) enable = true) (nanos : Nat) :
    Steps s (s.clock.advance nanos).1.toNat (s.advance nanos).1 (s.advance nanos).2 := by
  -- with the clock moved on, the registers are the same
  have moved {t : SysTick} {result : TickResult} {cycles : Nat} (clock : TickClock)
      (h : Steps { s with clock } cycles t result) : Steps s cycles t result :=
    ⟨h.counter, ⟨h.rest.control, h.rest.reload, h.rest.calibration⟩, h.explicit, h.irq⟩
  refine moved (s.clock.advance nanos).2 ?_
  simp only [advance, running, Bool.not_true, Bool.false_or]
  split
  · next none =>
    rw [beq_iff_eq.1 none]
    exact {
      counter := rfl
      rest := ⟨rfl, rfl, rfl⟩
      explicit := rfl
      irq := ⟨nofun, fun ⟨_, _, early, _⟩ => absurd early (Nat.not_lt_zero _)⟩ }
  · exact steps_count _ _

-- ---------------------------------------------------------------------------
-- A run of steps
-- ---------------------------------------------------------------------------

def after (s : SysTick) (steps : List Nat) : SysTick :=
  steps.foldl (fun s nanos => (s.advance nanos).1) s

def cyclesIn (s : SysTick) : List Nat → Nat
  | [] => 0
  | nanos :: rest => (s.clock.advance nanos).1.toNat + (s.advance nanos).1.cyclesIn rest

theorem OnlyCounts.trans {t u : SysTick} (h : OnlyCounts s t) (h' : OnlyCounts t u) :
    OnlyCounts s u where
  control := h'.control.trans h.control
  reload := h'.reload.trans h.reload
  calibration := h'.calibration.trans h.calibration

theorem OnlyCounts.anySet_control {t : SysTick} (h : OnlyCounts s t) {bits : UInt32}
    (other : ~~~countflag &&& bits = bits) :
    anySet (t.regs.get csr) bits = anySet (s.regs.get csr) bits := by
  rw [← anySet_and other, h.control, anySet_and other]

theorem after_eq_steps (running : anySet (s.regs.get csr) enable = true) (steps : List Nat) :
    OnlyCounts s (s.after steps) ∧
      (s.after steps).counter = (Counter.step s.reload)^[s.cyclesIn steps] s.counter := by
  induction steps generalizing s with
  | nil => exact ⟨⟨rfl, rfl, rfl⟩, rfl⟩
  | cons nanos rest ih =>
    have first := steps_advance running nanos
    have same : (s.advance nanos).1.reload = s.reload := congrArg UInt32.toNat first.rest.reload
    obtain ⟨only, counted⟩ := ih ((first.rest.anySet_control (by decide)).trans running)
    refine ⟨first.rest.trans only, counted.trans ?_⟩
    rw [same, first.counter, ← Function.iterate_add_apply, Nat.add_comm]
    rfl

structure CycleContract (s : SysTick) : Prop where
  step : ∀ nanos, Steps s (s.clock.advance nanos).1.toNat (s.advance nanos).1 (s.advance nanos).2
  clock : ∀ nanos, (s.advance nanos).1.clock = (s.clock.advance nanos).2
  run : ∀ steps, OnlyCounts s (s.after steps) ∧
    (s.after steps).counter = (Counter.step s.reload)^[s.cyclesIn steps] s.counter
  split : ∀ first second, s.cyclesIn first = s.cyclesIn second →
    (s.after first).counter = (s.after second).counter

theorem cycleContract (running : anySet (s.regs.get csr) enable = true) : CycleContract s where
  step := steps_advance running
  clock := s.clock_advance
  run := after_eq_steps running
  split first second same := by
    rw [(after_eq_steps running first).2, (after_eq_steps running second).2, same]

end

/-- A counter that starts beyond its reload value, at a cycle for each millisecond. -/
def ahead : SysTick where
  regs := ((((RegisterFile.reset _).set csr (enable ||| tickint)).set rvr 2).set cvr 5)
  clock := { hz := 1000 }

theorem cycleContract_ahead :
    CycleContract ahead ∧ (ahead.advance 10000000).1.counter = ⟨1, true⟩ ∧
      (ahead.advance 10000000).2.irq = true ∧ ahead.cyclesIn [5500000, 4500000] = 10 ∧
        (ahead.after [5500000, 4500000]).counter = ⟨1, true⟩ := by
  have contract := cycleContract (s := ahead) (by decide)
  refine ⟨contract, by decide, by decide, by decide, ?_⟩
  have same := contract.split [10000000] [5500000, 4500000] (by decide)
  exact same.symm.trans (by decide)

end BoardSim.SysTick
