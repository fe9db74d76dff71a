import BoardSim.Proofs.Adc.Completion
import BoardSim.Proofs.Peripheral.Clock
import BoardSim.Proofs.Peripheral.Pieces

/-!
# The time of a conversion

A start sets the count of cycles, accesses without a start leave it alone, and a step of time takes
its cycles off. So a conversion ends in the step by which more than `conversionCycles` have passed,
in whatever pieces time passes (`completions_eq_zero_iff`, `completes_iff`), and until the next
start it is the only one that ends, unless the converter starts over by itself
(`conversionContract`).
-/

namespace BoardSim.Adc

open Peripheral (Operation perform)

def asked (a : Adc) : Bool := anySet (a.regs.get cr2) swstart

/-- A conversion has begun and none of its cycles has passed. -/
structure Begun (a : Adc) : Prop where
  converting : a.converting = true
  remaining : a.remaining = conversionCycles

def StartsNone (a : Adc) (actions : List Action) : Prop :=
  ∀ operation ∈ a.operationsAlong actions, starts operation = false

def durations : List Action → List Nat
  | [] => []
  | .advance nanos :: rest => nanos :: durations rest
  | .access .. :: rest => durations rest
  | .setChannel .. :: rest => durations rest

def elapsed (a : Adc) (actions : List Action) : Nat := a.clock.cyclesOver (durations actions)

def Ends (a : Adc) : Action → Prop
  | .advance nanos => a.Completes nanos
  | _ => False

instance (a : Adc) : (action : Action) → Decidable (a.Ends action)
  | .advance nanos => inferInstanceAs (Decidable (a.Completes nanos))
  | .access .. => .isFalse id
  | .setChannel .. => .isFalse id

def completions (a : Adc) : List Action → Nat
  | [] => 0
  | action :: rest => (if a.Ends action then 1 else 0) + (a.act action).completions rest

variable {a b : Adc} {actions more : List Action} {nanos : Nat}

theorem durations_append (actions more : List Action) :
    durations (actions ++ more) = durations actions ++ durations more := by
  induction actions with
  | nil => rfl
  | cons action rest ih => cases action <;> simp [durations, ih]

theorem StartsNone.head {action : Action} (none : a.StartsNone (action :: actions)) :
    ∀ operation ∈ a.operationsOf action, starts operation = false :=
  fun operation mem => none operation (List.mem_append_left _ mem)

theorem StartsNone.tail {action : Action} (none : a.StartsNone (action :: actions)) :
    (a.act action).StartsNone actions :=
  fun operation mem => none operation (List.mem_append_right _ mem)

-- ---------------------------------------------------------------------------
-- Accesses
-- ---------------------------------------------------------------------------

/-- What operations on the registers leave alone, as far as it counts for conversions. -/
structure Keeps (a b : Adc) (operations : List Operation) : Prop where
  clock : b.clock = a.clock
  channels : b.channels = a.channels
  asked : a.asked = false → b.asked = false
  progress : (∀ operation ∈ operations, starts operation = false) →
    b.converting = a.converting ∧ b.remaining = a.remaining
  begun : a.asked = false → a.Begun ∨ (∃ operation ∈ operations, starts operation = true) → b.Begun

namespace Keeps

variable {c : Adc} {first last : List Operation}

/-- Without a start, words of registers change and nothing else. -/
theorem of_regs {regs : RegisterFile layout} {operations : List Operation}
    (none : ∀ operation ∈ operations, starts operation = false)
    (unasked : a.asked = false → ({ a with regs } : Adc).asked = false) :
    Keeps a { a with regs } operations := by
  refine ⟨rfl, rfl, unasked, fun _ => ⟨rfl, rfl⟩, fun _ begun => ?_⟩
  rcases begun with begun | ⟨operation, mem, started⟩
  · exact ⟨begun.converting, begun.remaining⟩
  · exact absurd ((none operation mem).symm.trans started) Bool.false_ne_true

theorem refl (a : Adc) : Keeps a a [] := by
  show Keeps a { a with regs := a.regs } []
  exact of_regs (by simp) id

theorem trans (h : Keeps a b first) (h' : Keeps b c last) : Keeps a c (first ++ last) where
  clock := h'.clock.trans h.clock
  channels := h'.channels.trans h.channels
  asked unasked := h'.asked (h.asked unasked)
  progress none := by
    have before := h.progress fun operation mem => none operation (List.mem_append_left _ mem)
    have after := h'.progress fun operation mem => none operation (List.mem_append_right _ mem)
    exact ⟨after.1.trans before.1, after.2.trans before.2⟩
  begun unasked begun := by
    refine h'.begun (h.asked unasked) ?_
    rcases begun with begun | ⟨operation, mem, started⟩
    · exact .inl (h.begun unasked (.inl begun))
    · rcases List.mem_append.1 mem with mem | mem
      · exact .inl (h.begun unasked (.inr ⟨operation, mem, started⟩))
      · exact .inr ⟨operation, mem, started⟩

end Keeps

theorem keeps_read (a : Adc) (i : Nat) : Keeps a (perform a (.read i)) [.read i] := by
  have fetched : perform a (.read i) = (a.fetch i).2 := settle_eq _ i
  have none : ∀ operation ∈ [Operation.read i], starts operation = false := by simp [starts]
  rw [fetched, fetch]
  by_cases data : i = dr
  · simp only [if_pos data]
    refine .of_regs none fun unasked => ?_
    rw [asked, RegisterFile.get_clearBits_ne _ _ (by decide)]
    exact unasked
  · simp only [if_neg data]
    show Keeps a { a with regs := a.regs } _
    exact .of_regs none id

/-- Without a start a write changes words of registers only. -/
theorem commit_of_not_starts (a : Adc) {i : Nat} {word : UInt32}
    (quiet : starts (.write i word) = false) : ∃ regs, a.commit i word = { a with regs } := by
  unfold commit
  by_cases control : i = cr2
  · subst control
    have stored : (a.regs.store cr2 word).get cr2 = word :=
      (a.regs.get_store (by decide) word).trans (Register.store_of_plain (by decide) _ _)
    have unasked : (anySet word adon && anySet word swstart) = false := by
      simpa [starts] using quiet
    simp only [if_true, stored, unasked, Bool.false_and, Bool.false_eq_true, if_false]
    exact ⟨_, rfl⟩
  · simp only [if_neg control]
    exact ⟨_, rfl⟩

theorem asked_commit (unasked : a.asked = false) (i : Nat) (word : UInt32) :
    (a.commit i word).asked = false := by
  by_cases control : i = cr2
  · subst control
    rw [commit_cr2 unasked, asked, RegisterFile.get_clearBits _ (by decide),
      not_anySet_and (by decide)]
  · rw [commit, asked]
    simp only [if_neg control]
    rwa [RegisterFile.get_store_ne _ _ control]

theorem keeps_write (a : Adc) (i : Nat) (word : UInt32) :
    Keeps a (perform a (.write i word)) [.write i word] := by
  show Keeps a (a.commit i word) _
  cases started : starts (.write i word) with
  | false =>
    have unasked := fun unasked => asked_commit (a := a) unasked i word
    obtain ⟨regs, committed⟩ := commit_of_not_starts a started
    rw [committed] at unasked ⊢
    exact .of_regs (fun operation mem => List.mem_singleton.1 mem ▸ started) unasked
  | true =>
    obtain rfl : i = cr2 := by
      have both := started
      simp only [starts, Bool.and_eq_true, beq_iff_eq] at both
      exact both.1
    refine ⟨?_, ?_, fun unasked => asked_commit unasked cr2 word, fun none => ?_, ?_⟩
    · simp only [commit, if_true]
      split <;> rfl
    · simp only [commit, if_true]
      split <;> rfl
    · exact absurd (none _ (List.mem_singleton.2 rfl)) (by simp [started])
    · intro unasked _
      rw [commit_cr2 unasked, started]
      exact ⟨rfl, rfl⟩

theorem keeps_access (a : Adc) (offset : UInt64) (size : AccessSize) (direction : Direction)
    (payload : UInt64) : Keeps a (a.act (.access offset size direction payload))
      (a.operationsOf (.access offset size direction payload)) := by
  refine Peripheral.access_induction (R := Keeps) a offset size direction payload Keeps.refl ?_
  intro a b operation rest later
  have one : Keeps a (perform a operation) [operation] := by
    cases operation with
    | read i => exact keeps_read a i
    | write i word => exact keeps_write a i word
  exact one.trans later

-- ---------------------------------------------------------------------------
-- Steps of time
-- ---------------------------------------------------------------------------

theorem complete_keeps (a : Adc) :
    a.complete.1.clock = a.clock ∧ a.complete.1.regs.get cr2 = a.regs.get cr2 ∧
      a.complete.1.channels = a.channels := by
  have control := a.get_delivered_ne (i := cr2) (by decide) (by decide)
  rw [complete_eq]
  dsimp only
  split
  · exact ⟨rfl, (get_start_ne _ (by decide)).trans control, rfl⟩
  · exact ⟨rfl, control, rfl⟩

theorem advance_keeps (a : Adc) (nanos : Nat) :
    (a.advance nanos).1.clock = (a.clock.advance nanos).2 ∧
      (a.advance nanos).1.regs.get cr2 = a.regs.get cr2 ∧
      (a.advance nanos).1.channels = a.channels := by
  unfold advance
  dsimp only
  split
  · exact ⟨rfl, rfl, rfl⟩
  · split
    · exact ⟨rfl, rfl, rfl⟩
    · exact complete_keeps _

/-- A step that ends no conversion takes its cycles off the running one. -/
theorem advance_of_running (running : a.converting = true) (goes : ¬a.Completes nanos) :
    (a.clock.advance nanos).1.toNat ≤ a.remaining.toNat ∧
      (a.advance nanos).1.converting = true ∧
      (a.advance nanos).1.remaining.toNat =
        a.remaining.toNat - (a.clock.advance nanos).1.toNat := by
  have enough : (a.clock.advance nanos).1 ≤ a.remaining :=
    UInt64.not_lt.1 fun past => goes ⟨running, past⟩
  have step : a.advance nanos = ({ a with
      clock := (a.clock.advance nanos).2
      remaining := a.remaining - (a.clock.advance nanos).1 }, .quiet) := by
    simp only [advance, running, Bool.not_true, Bool.false_eq_true, if_false, if_pos enough]
  rw [step]
  exact ⟨enough, running, UInt64.toNat_sub_of_le _ _ enough⟩

theorem quiet_of_not_completes (goes : ¬a.Completes nanos) : (a.advance nanos).2 = .quiet := by
  unfold advance
  dsimp only
  split
  · rfl
  · next running =>
    rw [if_pos]
    exact UInt64.not_lt.1 fun past => goes ⟨by simpa using running, past⟩

theorem clock_act (a : Adc) (action : Action) :
    (a.act action).clock = a.clock.stepped (durations [action]) := by
  cases action with
  | access offset size direction payload =>
    exact (keeps_access a offset size direction payload).clock
  | advance nanos => exact (a.advance_keeps nanos).1
  | setChannel channel value => rfl

theorem clock_after (a : Adc) (actions : List Action) :
    (a.after actions).clock = a.clock.stepped (durations actions) := by
  induction actions generalizing a with
  | nil => rfl
  | cons action rest ih =>
    refine (ih (a.act action)).trans ?_
    rw [clock_act]
    cases action <;> rfl

theorem elapsed_cons (a : Adc) (action : Action) (rest : List Action) :
    a.elapsed (action :: rest) = a.elapsed [action] + (a.act action).elapsed rest := by
  have split : durations (action :: rest) = durations [action] ++ durations rest :=
    durations_append [action] rest
  rw [elapsed, elapsed, elapsed, split, TickClock.cyclesOver_append, clock_act]

theorem elapsed_append (a : Adc) (actions more : List Action) :
    a.elapsed (actions ++ more) = a.elapsed actions + (a.after actions).elapsed more := by
  rw [elapsed, elapsed, elapsed, durations_append, TickClock.cyclesOver_append, clock_after]

theorem elapsed_advance (a : Adc) (nanos : Nat) :
    a.elapsed [.advance nanos] = (a.clock.advance nanos).1.toNat := rfl

-- ---------------------------------------------------------------------------
-- A run without a start
-- ---------------------------------------------------------------------------

/-- Without a start, an action that ends no conversion takes off the cycles that pass in it. -/
theorem running_act {action : Action} (running : a.converting = true) (goes : ¬a.Ends action)
    (none : ∀ operation ∈ a.operationsOf action, starts operation = false) :
    a.elapsed [action] ≤ a.remaining.toNat ∧ (a.act action).converting = true ∧
      (a.act action).remaining.toNat = a.remaining.toNat - a.elapsed [action] := by
  cases action with
  | access offset size direction payload =>
    obtain ⟨converting, remaining⟩ := (keeps_access a offset size direction payload).progress none
    exact ⟨Nat.zero_le _, converting.trans running, congrArg UInt64.toNat remaining⟩
  | advance nanos =>
    rw [elapsed_advance]
    exact advance_of_running running goes
  | setChannel channel value => exact ⟨Nat.zero_le _, running, rfl⟩

/-- As long as no conversion has ended, what remains is what the cycles so far have left. -/
theorem running_after (running : a.converting = true) (none : a.StartsNone actions)
    (goes : a.completions actions = 0) :
    a.elapsed actions ≤ a.remaining.toNat ∧ (a.after actions).converting = true ∧
      (a.after actions).remaining.toNat = a.remaining.toNat - a.elapsed actions := by
  induction actions generalizing a with
  | nil => exact ⟨Nat.zero_le _, running, rfl⟩
  | cons action rest ih =>
    have still : ¬a.Ends action := by
      intro ends
      simp [completions, ends] at goes
    simp only [completions, if_neg still, Nat.zero_add] at goes
    obtain ⟨within, onward, left⟩ := running_act running still none.head
    obtain ⟨within', last, left'⟩ := ih onward none.tail goes
    rw [left] at within' left'
    rw [elapsed_cons]
    exact ⟨by omega, last, left'.trans (by omega)⟩

/-- The running conversion ends by the step that brings more cycles than it still needs. -/
theorem completions_eq_zero_iff (running : a.converting = true) (none : a.StartsNone actions) :
    a.completions actions = 0 ↔ a.elapsed actions ≤ a.remaining.toNat := by
  refine ⟨fun goes => (running_after running none goes).1, fun within => ?_⟩
  induction actions generalizing a with
  | nil => rfl
  | cons action rest ih =>
    rw [elapsed_cons] at within
    have still : ¬a.Ends action := by
      cases action with
      | access => exact id
      | setChannel => exact id
      | advance nanos =>
        intro completes
        have past := UInt64.lt_iff_toNat_lt.1 completes.2
        rw [elapsed_advance] at within
        omega
    obtain ⟨-, onward, left⟩ := running_act running still none.head
    rw [completions, if_neg still, Nat.zero_add]
    exact ih onward none.tail (by omega)

theorem completes_iff (running : a.converting = true) (none : a.StartsNone actions)
    (within : a.elapsed actions ≤ a.remaining.toNat) :
    (a.after actions).Completes nanos ↔
      a.remaining.toNat < a.elapsed (actions ++ [.advance nanos]) := by
  have goes := (completions_eq_zero_iff running none).2 within
  obtain ⟨-, still, left⟩ := running_after running none goes
  rw [elapsed_append, elapsed_advance, Completes, UInt64.lt_iff_toNat_lt, left]
  constructor
  · rintro ⟨-, past⟩
    omega
  · intro past
    exact ⟨still, by omega⟩

/-- While no conversion runs, none ends. -/
theorem completions_of_idle (idle : a.converting = false) (none : a.StartsNone actions) :
    a.completions actions = 0 := by
  induction actions generalizing a with
  | nil => rfl
  | cons action rest ih =>
    have still : ¬a.Ends action := by
      cases action with
      | advance nanos => exact fun completes => Bool.false_ne_true (idle.symm.trans completes.1)
      | access => exact id
      | setChannel => exact id
    have onward : (a.act action).converting = false := by
      cases action with
      | access offset size direction payload =>
        exact ((keeps_access a offset size direction payload).progress none.head).1.trans idle
      | advance nanos => exact (advance_of_not_completes still).2.trans idle
      | setChannel channel value => exact idle
    rw [completions, if_neg still, Nat.zero_add, ih onward none.tail]

-- ---------------------------------------------------------------------------
-- Every reachable state
-- ---------------------------------------------------------------------------

def Reachable (a : Adc) : Prop := ∃ hz before, a = (withClock hz).after before

structure Narrow (a : Adc) : Prop where
  channels : ∀ channel (h : channel < channelCount), a.channels[channel] ≤ 0xFFF
  sample : a.regs.get dr ≤ 0xFFF

theorem sample_eq (a : Adc) : a.sample =
    if h : a.selected < channelCount then a.channels[a.selected].toUInt32 else 0 := by
  unfold sample channel?
  split
  · next inside => rw [Vector.getElem?_eq_getElem inside]; rfl
  · next outside => rw [Vector.getElem?_eq_none (Nat.le_of_not_lt outside)]; rfl

theorem Narrow.sample_le (h : Narrow a) : Adc.sample a ≤ 0xFFF := by
  rw [sample_eq]
  split
  · next inside =>
    have bound := UInt16.le_iff_toNat_le.1 (h.channels a.selected inside)
    rw [UInt32.le_iff_toNat_le, UInt16.toNat_toUInt32]
    exact bound
  · decide

theorem sampled_advance (completes : a.Completes nanos) :
    (a.advance nanos).1.regs.get dr = a.sample := by
  rw [advance_of_completes completes, complete_eq]
  dsimp only
  split
  · exact (get_start_ne _ (by decide)).trans (get_delivered_dr _)
  · exact get_delivered_dr _

theorem Narrow.act (h : Narrow a) (coherent : Coherent a) (action : Action) :
    Narrow (a.act action) := by
  cases action with
  | access offset size direction payload =>
    have kept := (keeps_access a offset size direction payload).channels
    have sample := (performed_access coherent offset size direction payload).sample
    refine ⟨fun channel inside => ?_, ?_⟩
    · simp only [kept]
      exact h.channels channel inside
    · rw [sample]
      exact h.sample
  | advance nanos =>
    have kept : (a.act (.advance nanos)).channels = a.channels := (a.advance_keeps nanos).2.2
    refine ⟨fun channel inside => ?_, ?_⟩
    · simp only [kept]
      exact h.channels channel inside
    · show (a.advance nanos).1.regs.get dr ≤ 0xFFF
      by_cases completes : a.Completes nanos
      · rw [sampled_advance completes]
        exact h.sample_le
      · rw [(advance_of_not_completes completes).1]
        exact h.sample
  | setChannel channel value =>
    refine ⟨fun other inside => ?_, h.sample⟩
    show (a.channels.setIfInBounds channel (value &&& 0xFFF))[other] ≤ 0xFFF
    rw [Vector.getElem_setIfInBounds]
    split
    · rw [UInt16.le_iff_toNat_le, UInt16.toNat_and]
      exact Nat.and_le_right
    · exact h.channels other inside

theorem narrow_withClock (hz : UInt64) : Narrow (withClock hz) := by
  refine ⟨fun channel inside => ?_, ?_⟩
  · show (Vector.replicate channelCount (0 : UInt16))[channel] ≤ 0xFFF
    rw [Vector.getElem_replicate]
    decide
  · show (RegisterFile.reset layout).get dr ≤ 0xFFF
    decide

theorem Narrow.after (h : Narrow a) (coherent : Coherent a) (actions : List Action) :
    Narrow (a.after actions) := by
  induction actions generalizing a with
  | nil => exact h
  | cons action rest ih => exact ih (h.act coherent action) (coherent.act action)

-- ---------------------------------------------------------------------------
-- Reading back
-- ---------------------------------------------------------------------------

theorem asked_read (unasked : a.asked = false) (word : UInt64) :
    (Peripheral.read a word).2.asked = false := by
  unfold Peripheral.read
  split
  · exact unasked
  · next i _ => exact (keeps_read a i).asked unasked

theorem asked_atByte (unasked : a.asked = false) (offset : UInt64) (size : AccessSize) (k : Nat) :
    (Peripheral.atByte a offset size k).asked = false := by
  unfold Peripheral.atByte
  induction Peripheral.earlier offset size k generalizing a with
  | nil => exact unasked
  | cons p rest ih => exact ih (asked_read unasked _)

/-- The byte at `0x0B` is the one with `SWSTART`. -/
theorem swstart_of_read (unasked : a.asked = false) {offset : UInt64} (size : AccessSize) {k : Nat}
    (there : offset + UInt64.ofNat k = 0x0B) (small : k < 8) :
    (Peripheral.payloadByte (Peripheral.access a offset size .read 0).1 k).toBitVec.getLsbD 6 =
      false := by
  show (Peripheral.payloadByte (Peripheral.load a offset size).1 k).toBitVec.getLsbD 6 = false
  rw [Peripheral.payloadByte_load a offset size small, there]
  split
  · have before := asked_atByte unasked offset size k
    generalize Peripheral.atByte a offset size k = b at before
    have lane : (0x0B : UInt64).toNat % 4 = 3 := rfl
    have word : (Peripheral.read b (Peripheral.wordOffset 0x0B)).1 = b.regs.get cr2 := rfl
    have single : swstart.toBitVec = BitVec.twoPow 32 30 := by decide
    rw [lane, word, Peripheral.getLsbD_laneOf _ (by decide) (by decide)]
    exact (anySet_of_twoPow single (by decide) _).symm.trans before
  · rfl

-- ---------------------------------------------------------------------------
-- The contract
-- ---------------------------------------------------------------------------

/-- When the conversion that has begun in `a` ends, if firmware starts no other. -/
structure CountContract (a : Adc) : Prop where
  waits : ∀ actions, a.StartsNone actions →
    (a.completions actions = 0 ↔ a.elapsed actions ≤ conversionCycles.toNat)
  ends : ∀ actions nanos, a.StartsNone actions → a.elapsed actions ≤ conversionCycles.toNat →
    ((a.after actions).Completes nanos ↔
      conversionCycles.toNat < a.elapsed (actions ++ [.advance nanos]))

structure ResultContract (a : Adc) (nanos : Nat) : Prop where
  sampled : (a.advance nanos).1.regs.get dr =
    if h : a.selected < channelCount then a.channels[a.selected].toUInt32 else 0
  requests : (a.advance nanos).2 = .line (anySet (a.regs.get cr1) eocie)
  single : a.continuous = false → ∀ more, (a.advance nanos).1.StartsNone more →
    (a.advance nanos).1.completions more = 0
  continuous : a.continuous = true → (a.advance nanos).1.Begun

structure ConversionContract (a : Adc) : Prop where
  /-- A word that firmware writes to `CR2` starts a conversion if it has both bits, ... -/
  written : ∀ word : UInt32,
    Peripheral.operations a 0x08 .word .write word.toUInt64 = [.write cr2 word]
  /-- ... and so does any access that does the same on the way, during a conversion as well. -/
  started : a.asked = false → ∀ offset size direction payload,
    (∃ operation ∈ Peripheral.operations a offset size direction payload,
      starts operation = true) →
        (Peripheral.access a offset size direction payload).2.Begun
  counted : a.Begun → CountContract a
  timed : ∀ actions, a.clock.ExactOver (durations actions) →
    a.elapsed actions * nanosPerSecond + (a.after actions).clock.remainder.toNat =
      a.clock.due (durations actions).sum
  completed : ∀ nanos, a.Completes nanos → ResultContract a nanos
  waited : ∀ nanos, ¬a.Completes nanos →
    (a.advance nanos).1.regs = a.regs ∧ (a.advance nanos).2 = .quiet
  reached : a.Reachable → a.asked = false ∧ a.regs.get dr ≤ 0xFFF
  shown : a.asked = false → ∀ offset size k, offset + UInt64.ofNat k = 0x0B → k < 8 →
    let answer := (Peripheral.access a offset size .read 0).1
    (Peripheral.payloadByte answer k).toBitVec.getLsbD 6 = false

theorem Begun.counts (begun : a.Begun) : CountContract a where
  waits actions none := by
    rw [completions_eq_zero_iff begun.converting none, begun.remaining]
  ends actions nanos none within := by
    rw [← begun.remaining] at within ⊢
    exact completes_iff begun.converting none within

theorem resultContract (completes : a.Completes nanos) : ResultContract a nanos := by
  have step := (advance_of_completes completes).trans (complete_eq _)
  have again : ({ a with clock := (a.clock.advance nanos).2 } : Adc).continuous = a.continuous :=
    rfl
  rw [again] at step
  refine ⟨(sampled_advance completes).trans a.sample_eq, ?_, fun single more none => ?_,
    fun continuous => ?_⟩
  · rw [step]
  · refine completions_of_idle ?_ none
    rw [step, single]
    rfl
  · rw [step, if_pos continuous]
    exact ⟨rfl, rfl⟩

theorem conversionContract (a : Adc) : ConversionContract a where
  written word := by
    rw [Peripheral.operations_write_word a 0x08 _ (i := cr2) (by decide) rfl,
      UInt32.toUInt32_toUInt64]
  started unasked offset size direction payload started :=
    (keeps_access a offset size direction payload).begun unasked (.inr started)
  counted := Begun.counts
  timed actions exact := by
    rw [clock_after]
    exact exact.accounts
  completed _ := resultContract
  waited _ goes := ⟨(advance_of_not_completes goes).1, quiet_of_not_completes goes⟩
  reached := by
    rintro ⟨hz, before, rfl⟩
    have coherent := coherent_withClock hz
    exact ⟨(coherent.after before).unstarted, ((narrow_withClock hz).after coherent before).sample⟩
  shown unasked _ size _ := swstart_of_read unasked size

/-- With one cycle in each step, the fifteenth step ends the conversion. -/
theorem conversionContract_fifteenth :
    let a := (withClock 1000).after (starting 0)
    let steps := List.replicate 14 (Action.advance 1000000)
    a.Begun ∧ a.completions steps = 0 ∧ (a.after steps).Completes 1000000 := by
  intro a steps
  have begun : a.Begun := ⟨by decide +kernel, by decide +kernel⟩
  have none : a.StartsNone steps := nofun
  have within : a.elapsed steps = conversionCycles.toNat := by decide +kernel
  have past : a.elapsed (steps ++ [.advance 1000000]) = conversionCycles.toNat + 1 := by
    decide +kernel
  have counted := (conversionContract a).counted begun
  refine ⟨begun, (counted.waits steps none).2 within.le, ?_⟩
  exact (counted.ends steps _ none within.le).2 (past ▸ Nat.lt_succ_self _)

end BoardSim.Adc
