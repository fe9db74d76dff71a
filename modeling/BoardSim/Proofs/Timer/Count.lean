import BoardSim.Proofs.Peripheral.Clock
import BoardSim.Proofs.Timer.Range

/-!
# The timer as one counter

Prescaler and counter together count clock cycles: `position` is how many of them the two hold, and
an update event is due when they reach `period`. In these terms a step of time is one addition
(`counted_count`), and the two divisions of `count` are how the sum is split between the two.
Unless it ends a single pulse, the timer is then at the sum modulo the period
(`Counted.position_eq`).
-/

namespace BoardSim.Timer

variable (t : Timer) {cycles : UInt64}

def prescale : Nat := (t.regs.get psc).toNat + 1

/-- Counts from one update event to the next. -/
def span : Nat := (t.regs.get arr).toNat + 1

def period : Nat := t.prescale * t.span

/-- Clock cycles that the counter and the phase of the prescaler stand for. -/
def position : Nat := (t.regs.get cnt).toNat * t.prescale + t.phase.toNat

def running : Bool := anySet (t.regs.get cr1) cen

def single : Bool := anySet (t.regs.get cr1) opm

def latched : Bool := anySet (t.regs.get sr) uif

theorem prescale_pos : 0 < t.prescale := Nat.succ_pos _

theorem period_pos : 0 < t.period := Nat.mul_pos t.prescale_pos (Nat.succ_pos _)

/-- The counter takes whole counts of what is added. -/
theorem position_add_div (n : Nat) :
    (t.position + n) / t.prescale = (t.regs.get cnt).toNat + (t.phase.toNat + n) / t.prescale := by
  rw [position, Nat.add_assoc, Nat.add_comm, Nat.add_mul_div_right _ _ t.prescale_pos,
    Nat.add_comm]

-- ---------------------------------------------------------------------------
-- The sums of a step
-- ---------------------------------------------------------------------------

section
variable {t} (room : t.position + cycles.toNat < UInt64.size)
include room

theorem toNat_total : (t.phase.toUInt64 + cycles).toNat = t.phase.toNat + cycles.toNat := by
  rw [UInt64.toNat_add, UInt32.toNat_toUInt64]
  refine Nat.mod_eq_of_lt (Nat.lt_of_le_of_lt ?_ room)
  exact Nat.add_le_add_right (Nat.le_add_left _ _) _

theorem toNat_rest :
    ((t.phase.toUInt64 + cycles) % ((t.regs.get psc).toUInt64 + 1)).toUInt32.toNat =
      (t.position + cycles.toNat) % t.prescale := by
  rw [toNat_mod_succ, toNat_total room, position, Nat.add_assoc, Nat.mul_add_mod_self_right]
  rfl

theorem toNat_counts :
    (t.counts cycles).toNat = (t.phase.toNat + cycles.toNat) / t.prescale := by
  rw [counts, UInt64.toNat_div, toNat_total room, toNat_succ_toUInt64]
  rfl

theorem toNat_reached :
    ((t.regs.get cnt).toUInt64 + t.counts cycles).toNat =
      (t.position + cycles.toNat) / t.prescale := by
  rw [UInt64.toNat_add, UInt32.toNat_toUInt64, toNat_counts room, ← t.position_add_div]
  exact Nat.mod_eq_of_lt (Nat.lt_of_le_of_lt (Nat.div_le_self _ _) room)

/-- The counter gets to its end when the cycles make a period. -/
theorem reached_lt_iff :
    (t.regs.get cnt).toUInt64 + t.counts cycles < (t.regs.get arr).toUInt64 + 1 ↔
      t.position + cycles.toNat < t.period := by
  rw [UInt64.lt_iff_toNat_lt, toNat_reached room, toNat_succ_toUInt64,
    Nat.div_lt_iff_lt_mul t.prescale_pos, Nat.mul_comm]
  rfl

theorem toNat_wrapped :
    (((t.regs.get cnt).toUInt64 + t.counts cycles) %
      ((t.regs.get arr).toUInt64 + 1)).toUInt32.toNat =
        (t.position + cycles.toNat) / t.prescale % t.span := by
  rw [toNat_mod_succ, toNat_reached room]
  rfl

end

-- ---------------------------------------------------------------------------
-- One step
-- ---------------------------------------------------------------------------

/-- `u` is what the timer is at `sum`, its position with the cycles of a step added. -/
structure Counted (t u : Timer) (sum : Nat) : Prop where
  phase : u.phase.toNat = sum % t.prescale
  cnt : (u.regs.get cnt).toNat =
    if t.single = true ∧ t.period ≤ sum then 0 else sum / t.prescale % t.span
  status : u.regs.get sr = t.regs.get sr ||| (if t.period ≤ sum then uif else 0)
  control : u.regs.get cr1 =
    t.regs.get cr1 &&& ~~~(if t.single = true ∧ t.period ≤ sum then cen else 0)
  others : ∀ i, cr1 ≠ i → sr ≠ i → Timer.cnt ≠ i → u.regs.get i = t.regs.get i

theorem phase_count (t : Timer) (cycles : UInt64) : (t.count cycles).phase =
    ((t.phase.toUInt64 + cycles) % ((t.regs.get psc).toUInt64 + 1)).toUInt32 := by
  simp only [count]
  split
  · rfl
  · split <;> rfl

theorem get_count_ne (t : Timer) (cycles : UInt64) {i : Nat} (control : cr1 ≠ i) (status : sr ≠ i)
    (counter : cnt ≠ i) : (t.count cycles).regs.get i = t.regs.get i := by
  simp only [count]
  split
  · exact RegisterFile.get_set_ne _ counter _
  · split
    · rw [RegisterFile.get_set_ne _ counter, RegisterFile.get_clearBits_ne _ _ control,
        RegisterFile.get_setBits_ne _ _ status, RegisterFile.get_set_ne _ counter]
    · rw [RegisterFile.get_setBits_ne _ _ status, RegisterFile.get_set_ne _ counter]

section
variable {t} (room : t.position + cycles.toNat < UInt64.size)
include room

/-- Before the end of the period the counter takes the counts. -/
theorem regs_count_of_lt (early : t.position + cycles.toNat < t.period) :
    (t.count cycles).regs =
      t.regs.set cnt ((t.regs.get cnt).toUInt64 + t.counts cycles).toUInt32 := by
  have short := (reached_lt_iff room).2 early
  rw [counts] at short
  simp only [count, short, if_true, counts]

/-- At its end the counter wraps, and the update event may stop it. -/
theorem regs_count_of_le (late : t.period ≤ t.position + cycles.toNat) :
    (t.count cycles).regs =
      let wrapped := ((t.regs.get cnt).toUInt64 + t.counts cycles) % ((t.regs.get arr).toUInt64 + 1)
      let regs := (t.regs.set cnt wrapped.toUInt32).setBits sr uif
      if t.single then (regs.clearBits cr1 cen).set cnt 0 else regs := by
  have long := mt (reached_lt_iff room).1 (Nat.not_lt.2 late)
  have mode (word : UInt32) :
      anySet (((t.regs.set cnt word).setBits sr uif).get cr1) opm = t.single := by
    rw [RegisterFile.get_setBits_ne _ _ (by decide), RegisterFile.get_set_ne _ (by decide), single]
  rw [counts] at long
  simp only [count, long, if_false, mode, counts]
  split <;> rfl

theorem counted_count : Counted t (t.count cycles) (t.position + cycles.toNat) := by
  have phase : (t.count cycles).phase.toNat = (t.position + cycles.toNat) % t.prescale := by
    rw [phase_count, toNat_rest room]
  have others (i : Nat) (control : cr1 ≠ i) (status : sr ≠ i) (counter : Timer.cnt ≠ i) :=
    t.get_count_ne cycles control status counter
  by_cases late : t.period ≤ t.position + cycles.toNat
  · have regs := regs_count_of_le room late
    by_cases pulse : t.single = true
    · simp only [pulse, if_true] at regs
      exact {
        phase
        cnt := by rw [regs, RegisterFile.get_set _ (by decide), if_pos ⟨pulse, late⟩]; rfl
        status := by
          rw [regs, RegisterFile.get_set_ne _ (by decide),
            RegisterFile.get_clearBits_ne _ _ (by decide), RegisterFile.get_setBits _ (by decide),
            RegisterFile.get_set_ne _ (by decide), if_pos late]
        control := by
          rw [regs, RegisterFile.get_set_ne _ (by decide), RegisterFile.get_clearBits _ (by decide),
            RegisterFile.get_setBits_ne _ _ (by decide), RegisterFile.get_set_ne _ (by decide),
            if_pos ⟨pulse, late⟩]
        others }
    · simp only [pulse, Bool.false_eq_true, if_false] at regs
      exact {
        phase
        cnt := by
          rw [regs, RegisterFile.get_setBits_ne _ _ (by decide), RegisterFile.get_set _ (by decide),
            toNat_wrapped room, if_neg (pulse ·.1)]
        status := by
          rw [regs, RegisterFile.get_setBits _ (by decide), RegisterFile.get_set_ne _ (by decide),
            if_pos late]
        control := by
          rw [regs, RegisterFile.get_setBits_ne _ _ (by decide),
            RegisterFile.get_set_ne _ (by decide), if_neg (pulse ·.1)]
          simp
        others }
  · have early := Nat.lt_of_not_le late
    have regs := regs_count_of_lt room early
    exact {
      phase
      cnt := by
        rw [regs, RegisterFile.get_set _ (by decide), if_neg (late ·.2), ← toNat_wrapped room,
          UInt64.mod_eq_of_lt ((reached_lt_iff room).2 early)]
      status := by rw [regs, RegisterFile.get_set_ne _ (by decide), if_neg late, UInt32.or_zero]
      control := by rw [regs, RegisterFile.get_set_ne _ (by decide), if_neg (late ·.2)]; simp
      others }

end

section
variable {t} {nanos : Nat}

theorem advance_of_counting (running : t.running = true) (some : (t.clock.advance nanos).1 ≠ 0) :
    (t.advance nanos).1 = ({ t with clock := (t.clock.advance nanos).2 } : Timer).count
      (t.clock.advance nanos).1 := by
  have counting : (!anySet (t.regs.get cr1) cen || (t.clock.advance nanos).1 == 0) = false := by
    rw [← Timer.running, running, beq_eq_false_iff_ne.2 some]
    rfl
  simp only [advance, counting, Bool.false_eq_true, if_false]

/-- A timer that is off, and one for which no cycle passes, keeps all but its clock. -/
theorem advance_of_idle (idle : t.running = false ∨ (t.clock.advance nanos).1 = 0) :
    (t.advance nanos).1 = { t with clock := (t.clock.advance nanos).2 } := by
  have still : (!anySet (t.regs.get cr1) cen || (t.clock.advance nanos).1 == 0) = true := by
    rcases idle with off | none
    · rw [← Timer.running, off]
      rfl
    · rw [none]
      exact Bool.or_true _
  simp only [advance, still, if_true]

/-- The line stays requested while `UIF` and `UIE` are both set. -/
theorem snd_advance (t : Timer) (nanos : Nat) :
    (t.advance nanos).2 =
      .line ((t.advance nanos).1.latched && anySet ((t.advance nanos).1.regs.get dier) uie) := rfl

theorem counted_advance (running : t.running = true) (some : (t.clock.advance nanos).1 ≠ 0)
    (room : t.position + (t.clock.advance nanos).1.toNat < UInt64.size) :
    Counted t (t.advance nanos).1 (t.position + (t.clock.advance nanos).1.toNat) := by
  -- with the clock moved on, the timer is at the same position
  have moved : Counted { t with clock := (t.clock.advance nanos).2 }
      (t.advance nanos).1 (t.position + (t.clock.advance nanos).1.toNat) := by
    rw [advance_of_counting running some]
    exact counted_count room
  exact ⟨moved.phase, moved.cnt, moved.status, moved.control, moved.others⟩

end

-- ---------------------------------------------------------------------------
-- What a step leaves
-- ---------------------------------------------------------------------------

namespace Counted

variable {t u : Timer} {sum : Nat} (h : Counted t u sum)
include h

theorem prescale_eq : u.prescale = t.prescale := by
  rw [prescale, h.others psc (by decide) (by decide) (by decide), prescale]

theorem span_eq : u.span = t.span := by
  rw [span, h.others arr (by decide) (by decide) (by decide), span]

theorem period_eq : u.period = t.period := by
  rw [period, h.prescale_eq, h.span_eq, period]

theorem single_eq : u.single = t.single := by
  rw [single, h.control, anySet_and (by split <;> decide), single]

theorem latched_eq : u.latched = (t.latched || decide (t.period ≤ sum)) := by
  rw [latched, h.status, anySet_or, latched]
  split
  · next late => simp [late, show anySet uif uif = true by decide]
  · next early => simp [early, show anySet 0 uif = false by decide]

/-- The update event of a single pulse, and it alone, stops the counter. -/
theorem running_eq :
    u.running = (t.running && !decide (t.single = true ∧ t.period ≤ sum)) := by
  rw [running, h.control]
  split
  · next ends => simp [ends, not_anySet_and (show ~~~cen &&& cen = 0 by decide)]
  · next goes => simp [goes, running]

/-- The phase and the counter are the two digits of the sum. -/
theorem position_eq (goes : ¬(t.single = true ∧ t.period ≤ sum)) :
    u.position = sum % t.period := by
  rw [position, h.prescale_eq, h.phase, h.cnt, if_neg goes, period, Nat.mod_mul, Nat.mul_comm,
    Nat.add_comm]

end Counted

end BoardSim.Timer
