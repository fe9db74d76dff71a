import BoardSim.Proofs.Timer.Run

/-!
# The rate of the prescaler

A step of time counts no faster than the clock as long as the prescaler's phase is within `PSC`.
Counting brings the phase there, and so does a forced update event; a write of `PSC` may leave the
phase beyond it. These are all the ways (`rateContract_after`): the phase is beyond `PSC` exactly
where firmware has last written `PSC` below the phase, and neither a count nor a forced event has
come since. How many counts too many the next step then makes depends on how far it is beyond.
-/

namespace BoardSim.Timer

open Peripheral (Operation perform)

variable {t : Timer} {below : Bool}

def Moves (t : Timer) (nanos : Nat) : Prop :=
  t.running = true ∧ (t.clock.advance nanos).1 ≠ 0
deriving Decidable

def countsIn (t : Timer) (nanos : Nat) : Nat :=
  if t.Moves nanos then (t.counts (t.clock.advance nanos).1).toNat else 0

def Within (t : Timer) : Prop := t.phase ≤ t.regs.get psc

-- ---------------------------------------------------------------------------
-- Where `PSC` has been written below the phase
-- ---------------------------------------------------------------------------

/-- `PSC` is below the phase after an operation on `t`, if `below` says whether it was before. -/
def undercutBy (t : Timer) (below : Bool) : Operation → Bool
  | .read _ => below
  | .write i word =>
    if i = psc then word &&& 0xFFFF < t.phase else below && !forces (.write i word)

def undercutAlong (t : Timer) (below : Bool) : List Operation → Bool
  | [] => below
  | operation :: rest => (perform t operation).undercutAlong (t.undercutBy below operation) rest

def undercutAct (t : Timer) (below : Bool) : Action → Bool
  | .access offset size direction payload =>
    t.undercutAlong below (Peripheral.operations t offset size direction payload)
  | .advance nanos => below && !decide (t.Moves nanos)

def undercutOver (t : Timer) (below : Bool) : List Action → Bool
  | [] => below
  | action :: rest => (t.act action).undercutOver (t.undercutAct below action) rest

def Told (t : Timer) (below : Bool) : Prop := t.Within ↔ below = false

-- ---------------------------------------------------------------------------
-- What firmware does
-- ---------------------------------------------------------------------------

theorem get_psc_store (narrow : t.Narrow) (word : UInt32) :
    (t.regs.store psc word).get psc = word &&& 0xFFFF :=
  (t.regs.get_store (by decide) word).trans (Register.store_of_low rfl narrow.words.psc word)

theorem get_perform_write_ne {i j : Nat} (word : UInt32) (other : i ≠ j) (control : sr ≠ j)
    (event : egr ≠ j) (counter : cnt ≠ j) :
    (perform t (.write i word)).regs.get j = t.regs.get j := by
  rw [perform_write]
  split
  · rw [generate, RegisterFile.get_set_ne _ event, RegisterFile.get_setBits_ne _ _ control,
      RegisterFile.get_set_ne _ counter, RegisterFile.get_store_ne _ _ other]
  · exact RegisterFile.get_store_ne _ _ other _

theorem Narrow.perform (h : t.Narrow) (operation : Operation) :
    Narrow (Peripheral.perform t operation) := by
  cases operation with
  | read i => rwa [perform_read]
  | write i word => exact kept_narrow.commit t i word h

theorem Told.perform (h : t.Told below) (narrow : t.Narrow) (operation : Operation) :
    Told (perform t operation) (t.undercutBy below operation) := by
  cases operation with
  | read i => rwa [perform_read]
  | write i word =>
    unfold Told Within at h ⊢
    rw [phase_perform]
    by_cases prescaler : i = psc
    · subst prescaler
      have written : (Peripheral.perform t (.write psc word)).regs.get psc = word &&& 0xFFFF :=
        get_psc_store narrow word
      simp [undercutBy, forces, written]
    · rw [get_perform_write_ne word prescaler (by decide) (by decide) (by decide), undercutBy,
        if_neg prescaler]
      by_cases forced : forces (.write i word) = true
      · simp [forced]
      · simpa [forced] using h

theorem Told.access (h : t.Told below) (narrow : t.Narrow) (offset : UInt64) (size : AccessSize)
    (direction : Direction) (payload : UInt64) :
    Told (Peripheral.access t offset size direction payload).2
      (t.undercutAlong below (Peripheral.operations t offset size direction payload)) := by
  refine Peripheral.access_induction
    (R := fun t u operations => t.Narrow → ∀ below, Told t below →
      Told u (t.undercutAlong below operations))
    t offset size direction payload (fun _ _ _ h => h) (fun t _ operation _ rest => ?_) narrow
    below h
  intro narrow below h
  exact rest (narrow.perform operation) _ (h.perform narrow operation)

-- ---------------------------------------------------------------------------
-- What time does
-- ---------------------------------------------------------------------------

/-- Counting leaves a remainder in the prescaler, however many cycles there are. -/
theorem within_count (t : Timer) (cycles : UInt64) : (t.count cycles).Within := by
  rw [Within, phase_count, get_count_ne _ _ (by decide) (by decide) (by decide),
    UInt32.le_iff_toNat_le, toNat_mod_succ]
  exact Nat.le_of_lt_succ (Nat.mod_lt _ (Nat.succ_pos _))

theorem Told.advance (h : t.Told below) (nanos : Nat) :
    Told (t.advance nanos).1 (below && !decide (t.Moves nanos)) := by
  by_cases moves : t.Moves nanos
  · rw [decide_eq_true moves, advance_of_counting moves.1 moves.2]
    simpa [Told] using within_count _ _
  · have idle : t.running = false ∨ (t.clock.advance nanos).1 = 0 := by
      rcases Bool.eq_false_or_eq_true t.running with on | off
      · exact .inr (by_contra fun some => moves ⟨on, some⟩)
      · exact .inl off
    rw [decide_eq_false moves, advance_of_idle idle, Bool.not_false, Bool.and_true]
    exact h

theorem Told.after (h : t.Told below) (narrow : t.Narrow) (actions : List Action) :
    Told (t.after actions) (t.undercutOver below actions) := by
  induction actions generalizing t below with
  | nil => exact h
  | cons action rest ih =>
    refine ih ?_ (narrow.act action)
    cases action with
    | access offset size direction payload => exact h.access narrow offset size direction payload
    | advance nanos => exact h.advance nanos

-- ---------------------------------------------------------------------------
-- The contract
-- ---------------------------------------------------------------------------

/-- How fast the timer counts, if `undercut` says whether firmware has left `PSC` below the
phase. -/
structure RateContract (t : Timer) (undercut : Bool) : Prop where
  within : t.phase ≤ t.regs.get psc ↔ undercut = false
  bounded : undercut = false → ∀ nanos,
    t.countsIn nanos ≤ (t.clock.advance nanos).1.toNat
  /-- The phase may be beyond `PSC` by a count for each cycle. -/
  exact : ∀ nanos, t.Moves nanos →
    t.position + (t.clock.advance nanos).1.toNat < UInt64.size →
      (t.countsIn nanos ≤ (t.clock.advance nanos).1.toNat ↔
        t.phase.toNat ≤ (t.regs.get psc).toNat * ((t.clock.advance nanos).1.toNat + 1))
  counter : ∀ nanos, t.Moves nanos →
    t.position + (t.clock.advance nanos).1.toNat < UInt64.size →
      ((t.advance nanos).1.regs.get cnt).toNat =
        if t.single = true ∧ t.span ≤ (t.regs.get cnt).toNat + t.countsIn nanos then 0
        else ((t.regs.get cnt).toNat + t.countsIn nanos) % t.span

theorem countsIn_of_moves {nanos : Nat} (moves : t.Moves nanos)
    (room : t.position + (t.clock.advance nanos).1.toNat < UInt64.size) :
    t.countsIn nanos = (t.phase.toNat + (t.clock.advance nanos).1.toNat) / t.prescale := by
  rw [countsIn, if_pos moves, toNat_counts room]

/-- Even where the sum of phase and cycles wraps. -/
theorem countsIn_le (h : t.Within) (nanos : Nat) :
    t.countsIn nanos ≤ (t.clock.advance nanos).1.toNat := by
  generalize hcycles : (t.clock.advance nanos).1 = cycles
  have phase := UInt32.le_iff_toNat_le.1 h
  have sum : (t.phase.toUInt64 + cycles).toNat ≤ t.phase.toNat + cycles.toNat := by
    rw [UInt64.toNat_add, UInt32.toNat_toUInt64]
    exact Nat.mod_le _ _
  have quotient : (t.phase.toNat + cycles.toNat) / t.prescale ≤ cycles.toNat := by
    refine Nat.le_of_lt_succ ((Nat.div_lt_iff_lt_mul t.prescale_pos).2 ?_)
    have whole := Nat.le_mul_of_pos_right cycles.toNat t.prescale_pos
    rw [Nat.succ_mul]
    unfold prescale at whole ⊢
    omega
  rw [countsIn, hcycles]
  split
  · rw [counts, UInt64.toNat_div, toNat_succ_toUInt64]
    exact Nat.le_trans (Nat.div_le_div_right sum) quotient
  · exact Nat.zero_le _

theorem countsIn_le_iff {nanos : Nat} (moves : t.Moves nanos)
    (room : t.position + (t.clock.advance nanos).1.toNat < UInt64.size) :
    t.countsIn nanos ≤ (t.clock.advance nanos).1.toNat ↔
      t.phase.toNat ≤ (t.regs.get psc).toNat * ((t.clock.advance nanos).1.toNat + 1) := by
  rw [countsIn_of_moves moves room]
  generalize (t.clock.advance nanos).1.toNat = k
  have total : (k + 1) * t.prescale = (t.regs.get psc).toNat * (k + 1) + (k + 1) := by
    rw [prescale, Nat.mul_comm, Nat.succ_mul]
  rw [← Nat.lt_succ_iff, Nat.div_lt_iff_lt_mul t.prescale_pos, Nat.succ_eq_add_one, total]
  omega

theorem toNat_cnt_advance {nanos : Nat} (moves : t.Moves nanos)
    (room : t.position + (t.clock.advance nanos).1.toNat < UInt64.size) :
    ((t.advance nanos).1.regs.get cnt).toNat =
      if t.single = true ∧ t.span ≤ (t.regs.get cnt).toNat + t.countsIn nanos then 0
      else ((t.regs.get cnt).toNat + t.countsIn nanos) % t.span := by
  have reached : t.period ≤ t.position + (t.clock.advance nanos).1.toNat ↔
      t.span ≤ (t.position + (t.clock.advance nanos).1.toNat) / t.prescale := by
    rw [Nat.le_div_iff_mul_le t.prescale_pos, period, Nat.mul_comm]
  rw [(counted_advance moves.1 moves.2 room).cnt, countsIn_of_moves moves room,
    ← t.position_add_div]
  simp only [reached]

theorem rateContract_after (hz : UInt64) (actions : List Action) :
    RateContract ((withClock hz).after actions) ((withClock hz).undercutOver false actions) := by
  have reset : (withClock hz).Told false := by simp [Told, Within, withClock]
  have told := reset.after (narrow_withClock hz) actions
  exact {
    within := told
    bounded := fun clear nanos => countsIn_le (told.2 clear) nanos
    exact := fun _ => countsIn_le_iff
    counter := fun _ => toNat_cnt_advance }

/-- A thousand cycles for each count, and just before the next one is due, a cycle for each. -/
def speedingUp : List Action :=
  [.access 0x28 .word .write 999, .access 0x00 .word .write cen.toUInt64, .advance 999000,
    .access 0x28 .word .write 0]

/-- Then a single cycle is a thousand counts. -/
theorem not_within_of_speedingUp :
    let t := (withClock defaultHz).after speedingUp
    t.regs.get cnt = 0 ∧ ¬t.phase ≤ t.regs.get psc ∧ (t.clock.advance 1000).1 = 1 ∧
      t.countsIn 1000 = 1000 ∧ (t.advance 1000).1.regs.get cnt = 1000 := by
  decide +kernel

end BoardSim.Timer
