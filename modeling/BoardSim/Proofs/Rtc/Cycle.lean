import BoardSim.Peripheral.Rtc
import BoardSim.Proofs.Peripheral.Bits
import BoardSim.Proofs.Peripheral.Countdown

/-!
# The real-time clock, cycle by cycle

`Rtc.cycle` is one cycle of the running clock: the divider counts down, and where it would go below
zero it starts over, a second has passed and the counter moves on. `advance_eq_cycles` says that one
step of time, however long, is as many cycles, and that it requests the interrupt exactly for what
happened in one of them.
-/

namespace BoardSim.Rtc

-- ---------------------------------------------------------------------------
-- One cycle
-- ---------------------------------------------------------------------------

def cycleEvents (r : Rtc) : UInt32 :=
  if 0 < r.div then 0
  else
    secf ||| (if r.cnt + 1 = 0 then owf else 0) ||| (if r.cnt + 1 = r.alr then alrf else 0)

def cycle (r : Rtc) : Rtc :=
  if 0 < r.div then { r with div := r.div - 1 }
  else { r with div := r.prl, cnt := r.cnt + 1, regs := r.regs.setBits crl r.cycleEvents }

def cycleNoting (p : Rtc × UInt32) : Rtc × UInt32 := (p.1.cycle, p.2 ||| p.1.cycleEvents)

theorem fst_iterate_cycleNoting (r : Rtc) (noted : UInt32) (k : Nat) :
    (cycleNoting^[k] (r, noted)).1 = cycle^[k] r := by
  induction k with
  | zero => rfl
  | succ k ih => rw [Function.iterate_succ_apply', Function.iterate_succ_apply', ← ih, cycleNoting]

theorem anySet_iterate_cycleNoting (r : Rtc) (word : UInt32) (k : Nat) :
    anySet word (cycleNoting^[k] (r, 0)).2 = true ↔
      ∃ j < k, anySet word (cycle^[j] r).cycleEvents = true := by
  induction k with
  | zero => simp [anySet]
  | succ k ih =>
    rw [Function.iterate_succ_apply', cycleNoting, anySet_or_bits, Bool.or_eq_true, ih,
      fst_iterate_cycleNoting, Nat.exists_lt_succ_right]

-- ---------------------------------------------------------------------------
-- Many cycles
-- ---------------------------------------------------------------------------

def eventsWithin (r : Rtc) (n : Nat) : UInt32 :=
  if n = 0 then 0
  else
    secf ||| (if UInt32.size ≤ r.cnt.toNat + n then owf else 0) |||
      (if (r.alr - r.cnt - 1).toNat < n then alrf else 0)

/-- The clock when `n` seconds have passed and `v` cycles are left before the next is over. -/
def counted (r : Rtc) (n v : Nat) : Rtc :=
  { r with
    div := UInt32.ofNat v
    cnt := r.cnt + UInt32.ofNat n
    regs := r.regs.setBits crl (r.eventsWithin n) }

theorem counted_zero (r : Rtc) : r.counted 0 r.div.toNat = r := by
  simp [counted, eventsWithin, RegisterFile.setBits_zero]

theorem ofNat_succ (n : Nat) : UInt32.ofNat (n + 1) = UInt32.ofNat n + 1 := by
  rw [UInt32.ofNat_add]
  rfl

theorem overflows_succ (cnt : UInt32) (n : Nat) :
    UInt32.size ≤ cnt.toNat + (n + 1) ↔
      UInt32.size ≤ cnt.toNat + n ∨ cnt + UInt32.ofNat n + 1 = 0 := by
  rw [← UInt32.toNat_inj, UInt32.toNat_add, UInt32.toNat_add, UInt32.toNat_ofNat']
  have := cnt.toNat_lt
  simp only [UInt32.size, UInt32.reduceToNat]
  omega

theorem reaches_succ (alr cnt : UInt32) (n : Nat) :
    (alr - cnt - 1).toNat < n + 1 ↔
      (alr - cnt - 1).toNat < n ∨ cnt + UInt32.ofNat n + 1 = alr := by
  rw [← UInt32.toNat_inj, UInt32.toNat_add, UInt32.toNat_add, UInt32.toNat_ofNat',
    UInt32.toNat_sub, UInt32.toNat_sub]
  have := cnt.toNat_lt
  have := alr.toNat_lt
  simp only [UInt32.reduceToNat]
  omega

theorem eventsWithin_succ (r : Rtc) (n v : Nat) (zero : UInt32.ofNat v = 0) :
    r.eventsWithin (n + 1) = r.eventsWithin n ||| (r.counted n v).cycleEvents := by
  have now : (r.counted n v).cycleEvents =
      secf ||| (if r.cnt + UInt32.ofNat n + 1 = 0 then owf else 0) |||
        (if r.cnt + UInt32.ofNat n + 1 = r.alr then alrf else 0) := by
    rw [cycleEvents, if_neg (by simp [counted, zero])]
    rfl
  rw [now, eventsWithin, if_neg n.succ_ne_zero, ite_or_ite owf (overflows_succ r.cnt n),
    ite_or_ite alrf (reaches_succ r.alr r.cnt n), eventsWithin]
  by_cases first : n = 0
  · -- before the first second neither the overflow nor the alarm can have happened
    subst first
    have early : ¬UInt32.size ≤ r.cnt.toNat + 0 := Nat.not_le.2 r.cnt.toNat_lt
    rw [if_neg early, if_neg (Nat.not_lt_zero _), if_pos rfl]
    simp only [UInt32.zero_or]
  · rw [if_neg first]
    ac_rfl

def noted (r : Rtc) (n v : Nat) : Rtc × UInt32 := (r.counted n v, r.eventsWithin n)

section
variable (r : Rtc)

theorem noted_zero : r.noted 0 r.div.toNat = (r, 0) := by
  rw [noted, counted_zero]
  rfl

theorem cycleNoting_down (n v : Nat) (h : v + 1 < UInt32.size) :
    cycleNoting (r.noted n (v + 1)) = r.noted n v := by
  have positive : 0 < UInt32.ofNat (v + 1) := by
    rw [UInt32.lt_iff_toNat_lt, UInt32.toNat_ofNat', Nat.mod_eq_of_lt h]
    exact Nat.succ_pos v
  have left : UInt32.ofNat (v + 1) - 1 = UInt32.ofNat v := by
    rw [ofNat_succ, UInt32.add_sub_cancel]
  simp only [noted, counted, cycleNoting, cycle, cycleEvents, positive, if_true, UInt32.or_zero,
    left]

theorem cycleNoting_wrap (n : Nat) :
    cycleNoting (r.noted n 0) = r.noted (n + 1) r.prl.toNat := by
  have zero : ¬0 < (r.counted n 0).div := by simp [counted]
  have moved : r.cnt + UInt32.ofNat n + 1 = r.cnt + UInt32.ofNat (n + 1) := by
    rw [ofNat_succ, UInt32.add_assoc]
  have flagged : (r.counted n 0).regs.setBits crl (r.counted n 0).cycleEvents =
      r.regs.setBits crl (r.eventsWithin (n + 1)) := by
    rw [r.eventsWithin_succ n 0 rfl]
    exact RegisterFile.setBits_setBits ..
  rw [noted, cycleNoting, cycle, if_neg zero, flagged, ← r.eventsWithin_succ n 0 rfl]
  simp only [noted, counted, UInt32.ofNat_toNat, moved]

-- ---------------------------------------------------------------------------
-- One step of time
-- ---------------------------------------------------------------------------

theorem divide_of_le {cycles : UInt64} (h : cycles.toNat ≤ r.div.toNat) :
    r.divide cycles = (UInt32.ofNat (r.div.toNat - cycles.toNat), 0) := by
  have short : cycles ≤ r.div.toUInt64 := by
    rwa [UInt64.le_iff_toNat_le, UInt32.toNat_toUInt64]
  rw [divide]
  simp only [if_pos short, Countdown.toUInt32_left _ h]

theorem divide_of_gt {cycles : UInt64} {past : Nat} (h : cycles.toNat = r.div.toNat + 1 + past) :
    r.divide cycles = (UInt32.ofNat (r.prl.toNat - past % (r.prl.toNat + 1)),
      UInt64.ofNat (1 + past / (r.prl.toNat + 1))) := by
  have bound : cycles.toNat < UInt64.size := cycles.toNat_lt
  have narrow := r.prl.toNat_lt
  have long : ¬cycles ≤ r.div.toUInt64 := by
    rw [UInt64.le_iff_toNat_le, UInt32.toNat_toUInt64]
    omega
  have fits : past < UInt64.size := by omega
  rw [divide]
  simp only [if_neg long, Countdown.sub_sub_one _ h, Countdown.toUInt32_round r.prl fits]
  rw [Countdown.toUInt64_succ, ← UInt64.ofNat_div fits (by omega), UInt64.ofNat_add 1]
  rfl

theorem eventsOf_ofNat {n : Nat} (some : n ≠ 0) (bound : n < UInt64.size) :
    r.eventsOf (UInt64.ofNat n) = r.eventsWithin n := by
  have overflow : (0xFFFFFFFF < UInt64.ofNat n || r.cnt + UInt32.ofNat n < r.cnt) = true ↔
      UInt32.size ≤ r.cnt.toNat + n := by
    rw [Bool.or_eq_true, decide_eq_true_iff, decide_eq_true_iff, UInt64.lt_iff_toNat_lt,
      UInt32.lt_iff_toNat_lt, UInt32.toNat_add, UInt32.toNat_ofNat',
      UInt64.toNat_ofNat_of_lt' bound]
    have := r.cnt.toNat_lt
    simp only [UInt32.size, UInt64.reduceToNat]
    omega
  have alarm : (r.alr - r.cnt - 1).toUInt64 < UInt64.ofNat n ↔ (r.alr - r.cnt - 1).toNat < n := by
    rw [UInt64.lt_iff_toNat_lt, UInt32.toNat_toUInt64, UInt64.toNat_ofNat_of_lt' bound]
  rw [eventsOf, eventsWithin, if_neg some]
  simp only [UInt64.toUInt32_ofNat', overflow, alarm]

theorem run_of_divide {cycles : UInt64} {left n : Nat}
    (divided : r.divide cycles = (UInt32.ofNat left, UInt64.ofNat n)) (bound : n < UInt64.size) :
    r.run cycles = (r.counted n left, .line (anySet (r.regs.get crh) (r.eventsWithin n))) := by
  have none_iff : UInt64.ofNat n = 0 ↔ n = 0 := by
    rw [← UInt64.toNat_inj, UInt64.toNat_ofNat_of_lt' bound]
    rfl
  rw [run, divided]
  by_cases none : n = 0
  · subst none
    simp [counted, eventsWithin, RegisterFile.setBits_zero, anySet, TickResult.line,
      TickResult.quiet]
  · have events (div : UInt32) :
        ({ r with div } : Rtc).eventsOf (UInt64.ofNat n) = r.eventsWithin n :=
      ({ r with div } : Rtc).eventsOf_ofNat none bound
    have enabled : (r.regs.setBits crl (r.eventsWithin n)).get crh = r.regs.get crh :=
      RegisterFile.get_set_ne _ (by decide) _
    simp only [none_iff, none, if_false, events, enabled, UInt64.toUInt32_ofNat', counted]

theorem run_eq_cycleNoting (cycles : UInt64) :
    r.run cycles = ((cycleNoting^[cycles.toNat] (r, 0)).1,
      .line (anySet (r.regs.get crh) (cycleNoting^[cycles.toNat] (r, 0)).2)) := by
  rw [← noted_zero]
  by_cases short : cycles.toNat ≤ r.div.toNat
  · rw [Countdown.iterate_of_le r.cycleNoting_down 0 r.div.toNat_lt short]
    exact r.run_of_divide (r.divide_of_le short) (by decide)
  · obtain ⟨past, total⟩ : ∃ past, cycles.toNat = r.div.toNat + 1 + past :=
      ⟨cycles.toNat - (r.div.toNat + 1), by omega⟩
    have seconds : 1 + past / (r.prl.toNat + 1) < UInt64.size := by
      have := Nat.div_le_self past (r.prl.toNat + 1)
      have : cycles.toNat < UInt64.size := cycles.toNat_lt
      omega
    rw [total, Countdown.iterate_past_zero r.cycleNoting_down r.cycleNoting_wrap r.prl.toNat_lt 0
      r.div.toNat_lt, Nat.zero_add]
    exact r.run_of_divide (r.divide_of_gt total) seconds

theorem run_zero : r.run 0 = (r, .quiet) := by
  simp [run, divide]

theorem cycle_withClock (clock : TickClock) :
    Function.Semiconj (fun r : Rtc => { r with clock }) cycle cycle := by
  intro r
  show { r.cycle with clock } = cycle { r with clock }
  unfold cycle
  split <;> rfl

/-- A step of time is as many cycles as pass in it, and requests the interrupt if one of them sets
a flag that `CRH` enables. -/
theorem advance_eq_cycles (running : r.configuring = false) (nanos : Nat) :
    let cycles := (r.clock.advance nanos).1
    (r.advance nanos).1 = { cycle^[cycles.toNat] r with clock := (r.clock.advance nanos).2 } ∧
      (r.advance nanos).2.explicit = [] ∧
        ((r.advance nanos).2.irq = true ↔
          ∃ j < cycles.toNat, anySet (r.regs.get crh) (cycle^[j] r).cycleEvents = true) := by
  intro cycles
  generalize hclock : (r.clock.advance nanos).2 = clock
  have later (k : Nat) : cycle^[k] { r with clock } = { cycle^[k] r with clock } :=
    (((cycle_withClock clock).iterate_right k).eq r).symm
  have started : r.advance nanos = ({ r with clock } : Rtc).run cycles := by
    subst hclock
    have still : ({ r with clock := (r.clock.advance nanos).2 } : Rtc).configuring = false :=
      running
    simp only [advance, still, Bool.or_false]
    by_cases none : cycles = 0
    · rw [if_pos (beq_iff_eq.2 none), none, run_zero]
    · rw [if_neg (mt beq_iff_eq.1 none)]
  have occurred := anySet_iterate_cycleNoting { r with clock } (r.regs.get crh) cycles.toNat
  rw [started, run_eq_cycleNoting, fst_iterate_cycleNoting, later]
  refine ⟨rfl, rfl, occurred.trans ?_⟩
  simp only [later]
  rfl

end

/-- A divider beyond its reload value, and then a second in every cycle: more than 2³² of them in
one step of a second. -/
def hasty : Rtc where
  regs := (RegisterFile.reset _).set crh alrf
  clock := { hz := 0x200000001 }
  prl := 0
  div := 7
  cnt := 5

theorem advance_eq_cycles_hasty :
    hasty.configuring = false ∧ (hasty.clock.advance nanosPerSecond).1 = 0x200000001 ∧
      (hasty.advance nanosPerSecond).1.div = 0 ∧
      (hasty.advance nanosPerSecond).1.cnt = 0xFFFFFFFF ∧
      (hasty.advance nanosPerSecond).1.regs.get crl = rtoff ||| secf ||| alrf ||| owf ∧
      (hasty.advance nanosPerSecond).2.irq = true ∧
      (hasty.advance nanosPerSecond).1 =
        { cycle^[0x200000001] hasty with clock := (hasty.clock.advance nanosPerSecond).2 } ∧
      ∃ j < 0x200000001, anySet (hasty.regs.get crh) (cycle^[j] hasty).cycleEvents = true := by
  have running : hasty.configuring = false := by decide
  have cycles : (hasty.clock.advance nanosPerSecond).1.toNat = 0x200000001 := by decide
  have requested : (hasty.advance nanosPerSecond).2.irq = true := by decide
  obtain ⟨state, -, irq⟩ := hasty.advance_eq_cycles running nanosPerSecond
  rw [cycles] at state irq
  exact ⟨running, by decide, by decide, by decide, by decide, requested, state, irq.1 requested⟩

end BoardSim.Rtc
