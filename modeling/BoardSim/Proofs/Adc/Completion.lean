import BoardSim.Peripheral.Adc
import BoardSim.Proofs.Peripheral.Bits
import BoardSim.Proofs.Peripheral.Operation

/-!
# The end of a conversion

A step that ends a conversion puts the sample into `DR` and sets `EOC`. Alone, the flag stays until
firmware clears it or starts a conversion (`ended_after`). In continuous mode the same step starts
the next conversion, and a start clears the flag, so there firmware never finds it set
(`completionContract_after`).
-/

namespace BoardSim.Adc

open Peripheral (Operation perform)

inductive Action where
  | access (offset : UInt64) (size : AccessSize) (direction : Direction) (payload : UInt64)
  | advance (nanos : Nat)
  | setChannel (channel : Nat) (value : UInt16)
deriving DecidableEq

def act (a : Adc) : Action → Adc
  | .access offset size direction payload => (Peripheral.access a offset size direction payload).2
  | .advance nanos => (a.advance nanos).1
  | .setChannel channel value => a.setChannel channel value

def after (a : Adc) (actions : List Action) : Adc := actions.foldl act a

def ended (a : Adc) : Bool := anySet (a.regs.get sr) eoc

def continuous (a : Adc) : Bool := anySet (a.regs.get cr2) cont && anySet (a.regs.get cr2) adon

def Completes (a : Adc) (nanos : Nat) : Prop :=
  a.converting = true ∧ a.remaining < (a.clock.advance nanos).1
deriving Decidable

-- ---------------------------------------------------------------------------
-- What firmware does
-- ---------------------------------------------------------------------------

def operationsOf (a : Adc) : Action → List Operation
  | .access offset size direction payload => Peripheral.operations a offset size direction payload
  | _ => []

def operationsAlong (a : Adc) : List Action → List Operation
  | [] => []
  | action :: rest => a.operationsOf action ++ (a.act action).operationsAlong rest

def starts : Operation → Bool
  | .read _ => false
  | .write i word => i == cr2 && (anySet word adon && anySet word swstart)

/-- A read of `DR`, a write of `SR` with 0 for `EOC`, and the start of a conversion. -/
def clears : Operation → Bool
  | .read i => i == dr
  | .write i word => i == sr && !anySet word eoc || starts (.write i word)

structure Coherent (a : Adc) : Prop where
  unstarted : anySet (a.regs.get cr2) swstart = false
  running : a.converting = true → a.ended = false

-- ---------------------------------------------------------------------------
-- One register operation
-- ---------------------------------------------------------------------------

structure Performed (a b : Adc) (operations : List Operation) : Prop where
  coherent : Coherent b
  ended : b.ended = (a.ended && operations.all (!clears ·))
  sample : b.regs.get dr = a.regs.get dr

namespace Performed

variable {a b c : Adc} {first last : List Operation}

theorem refl (h : Coherent a) : Performed a a [] where
  coherent := h
  ended := by simp
  sample := rfl

theorem trans (h : Performed a b first) (h' : Performed b c last) :
    Performed a c (first ++ last) where
  coherent := h'.coherent
  ended := by rw [h'.ended, h.ended, List.all_append, Bool.and_assoc]
  sample := h'.sample.trans h.sample

end Performed

theorem settle_eq (a : Adc) (i : Nat) : Peripheral.settle a i = a :=
  Peripheral.settle_of_keep (by decide : ∀ r ∈ layout, r.onRead = .keep) i

theorem ended_clearBits (a : Adc) : anySet ((a.regs.clearBits sr eoc).get sr) eoc = false := by
  rw [a.regs.get_clearBits (by decide), not_anySet_and (by decide)]

theorem ended_start (a : Adc) : a.start.ended = false := by
  show anySet (((a.regs.clearBits sr eoc).setBits sr strt).get sr) eoc = false
  rw [RegisterFile.get_setBits _ (by decide), anySet_or, ended_clearBits]
  rfl

theorem get_start_ne (a : Adc) {i : Nat} (other : sr ≠ i) :
    a.start.regs.get i = a.regs.get i :=
  (RegisterFile.get_set_ne _ other _).trans (RegisterFile.get_set_ne _ other _)

/-- A write of `CR2` is all there, but for `SWSTART`. -/
theorem commit_cr2 {a : Adc} (unstarted : anySet (a.regs.get cr2) swstart = false) (word : UInt32) :
    let b : Adc := { a with regs := a.regs.store cr2 word }
    let c := if starts (.write cr2 word) then b.start else b
    a.commit cr2 word = { c with regs := c.regs.clearBits cr2 swstart } := by
  have stored : (a.regs.store cr2 word).get cr2 = word :=
    (a.regs.get_store (by decide) word).trans (Register.store_of_plain (by decide) _ _)
  have asked : (anySet word adon && anySet word swstart && !anySet (a.regs.get cr2) swstart) =
      starts (.write cr2 word) := by
    rw [unstarted, starts]
    simp
  simp only [commit, stored, asked, if_true]

section
variable {a : Adc} (h : Coherent a)
include h

theorem performed_read (i : Nat) : Performed a (perform a (.read i)) [.read i] := by
  have fetched : perform a (.read i) = (a.fetch i).2 := settle_eq _ i
  rw [fetched]
  unfold fetch
  by_cases data : i = dr
  · subst data
    have cleared := a.ended_clearBits
    refine ⟨⟨?_, fun _ => cleared⟩, ?_, RegisterFile.get_set_ne _ (by decide) _⟩
    · show anySet ((a.regs.clearBits sr eoc).get cr2) swstart = false
      rw [RegisterFile.clearBits, RegisterFile.get_set_ne _ (by decide), h.unstarted]
    · exact cleared.trans (by simp [clears])
  · simp only [if_neg data]
    refine ⟨h, ?_, rfl⟩
    simp [clears, data]

theorem performed_write_cr2 (word : UInt32) :
    Performed a (perform a (.write cr2 word)) [.write cr2 word] := by
  show Performed a (a.commit cr2 word) _
  rw [commit_cr2 h.unstarted]
  have unstarted (file : RegisterFile layout) :
      anySet ((file.clearBits cr2 swstart).get cr2) swstart = false := by
    rw [file.get_clearBits (by decide), not_anySet_and (by decide)]
  have other (file : RegisterFile layout) {i : Nat} (apart : cr2 ≠ i) :
      (file.clearBits cr2 swstart).get i = file.get i :=
    RegisterFile.get_set_ne _ apart _
  cases started : starts (.write cr2 word) with
  | true =>
    have cleared := ended_start { a with regs := a.regs.store cr2 word }
    simp only [if_true]
    refine ⟨⟨unstarted _, fun _ => ?_⟩, ?_, ?_⟩
    · rwa [Adc.ended, other _ (by decide)]
    · rw [Adc.ended, other _ (by decide)]
      exact cleared.trans (by simp [clears, started])
    · rw [other _ (by decide), get_start_ne _ (by decide)]
      exact RegisterFile.get_set_ne _ (by decide) _
  | false =>
    have status : (a.regs.store cr2 word).get sr = a.regs.get sr :=
      RegisterFile.get_set_ne _ (by decide) _
    simp only [Bool.false_eq_true, if_false]
    refine ⟨⟨unstarted _, fun running => ?_⟩, ?_, ?_⟩
    · rw [Adc.ended, other _ (by decide), status]
      exact h.running running
    · rw [Adc.ended, other _ (by decide), status]
      simp [clears, started, Adc.ended]
    · rw [other _ (by decide)]
      exact RegisterFile.get_set_ne _ (by decide) _

theorem performed_write (i : Nat) (word : UInt32) :
    Performed a (perform a (.write i word)) [.write i word] := by
  by_cases control : i = cr2
  · subst control
    exact performed_write_cr2 h word
  · have committed : perform a (.write i word) = { a with regs := a.regs.store i word } := by
      show a.commit i word = _
      rw [commit]
      exact if_neg control
    have unstarted : anySet ((a.regs.store i word).get cr2) swstart = false := by
      rw [RegisterFile.store, RegisterFile.get_set_ne _ control, h.unstarted]
    have sample : (a.regs.store i word).get dr = a.regs.get dr := by
      by_cases data : i = dr
      · subst data
        rw [a.regs.get_store (by decide)]
        exact Register.store_of_readOnly (by decide) _ _
      · exact RegisterFile.get_set_ne _ data _
    have flag : anySet ((a.regs.store i word).get sr) eoc =
        (a.ended && !clears (.write i word)) := by
      by_cases status : i = sr
      · subst status
        rw [a.regs.anySet_store_clearZeros (i := sr) (k := 1) (by decide) rfl (by decide)
          (by decide) (by decide)]
        have apart : (sr == cr2) = false := rfl
        simp [clears, starts, apart, Adc.ended]
      · rw [RegisterFile.store, RegisterFile.get_set_ne _ status]
        simp [clears, starts, status, control, Adc.ended]
    rw [committed]
    refine ⟨⟨unstarted, fun running => ?_⟩, ?_, sample⟩
    · show anySet ((a.regs.store i word).get sr) eoc = false
      rw [flag, h.running running, Bool.false_and]
    · exact flag.trans (by simp)

theorem performed_operation (operation : Operation) :
    Performed a (perform a operation) [operation] := by
  cases operation with
  | read i => exact performed_read h i
  | write i word => exact performed_write h i word

theorem performed_access (offset : UInt64) (size : AccessSize) (direction : Direction)
    (payload : UInt64) :
    Performed a (a.act (.access offset size direction payload))
      (a.operationsOf (.access offset size direction payload)) := by
  refine Peripheral.access_induction
    (R := fun a b operations => Coherent a → Performed a b operations)
    a offset size direction payload (fun _ => .refl) (fun a _ operation _ rest h => ?_) h
  have one := performed_operation h operation
  exact one.trans (rest one.coherent)

end

-- ---------------------------------------------------------------------------
-- A step of time
-- ---------------------------------------------------------------------------

def sample (a : Adc) : UInt32 := ((a.channel? a.selected).getD 0).toUInt32

def delivered (a : Adc) : Adc :=
  { a with converting := false, regs := (a.regs.set dr a.sample).setBits sr eoc }

theorem ended_delivered (a : Adc) : a.delivered.ended = true := by
  show anySet (((a.regs.set dr a.sample).setBits sr eoc).get sr) eoc = true
  rw [RegisterFile.get_setBits _ (by decide), anySet_or, Bool.or_eq_true]
  exact .inr (by decide)

theorem get_delivered_dr (a : Adc) : a.delivered.regs.get dr = a.sample :=
  (RegisterFile.get_set_ne _ (by decide) _).trans (RegisterFile.get_set _ (by decide) _)

theorem get_delivered_ne (a : Adc) {i : Nat} (status : sr ≠ i) (data : dr ≠ i) :
    a.delivered.regs.get i = a.regs.get i :=
  (RegisterFile.get_set_ne _ status _).trans (RegisterFile.get_set_ne _ data _)

theorem complete_eq (a : Adc) :
    a.complete = (if a.continuous then a.delivered.start else a.delivered,
      .line (anySet (a.regs.get cr1) eocie)) := by
  have control : a.delivered.regs.get cr2 = a.regs.get cr2 :=
    a.get_delivered_ne (by decide) (by decide)
  have mask : a.delivered.regs.get cr1 = a.regs.get cr1 :=
    a.get_delivered_ne (by decide) (by decide)
  rw [continuous, ← control, ← mask]
  rfl

section
variable {a : Adc} {nanos : Nat}

theorem advance_of_completes (completes : a.Completes nanos) :
    a.advance nanos = ({ a with clock := (a.clock.advance nanos).2 } : Adc).complete := by
  obtain ⟨converting, past⟩ := completes
  have longer : ¬(a.clock.advance nanos).1 ≤ a.remaining := UInt64.not_le.2 past
  simp only [advance, converting, Bool.not_true, Bool.false_eq_true, if_false, if_neg longer]

/-- A step that ends no conversion leaves the registers alone. -/
theorem advance_of_not_completes (goes : ¬a.Completes nanos) :
    (a.advance nanos).1.regs = a.regs ∧ (a.advance nanos).1.converting = a.converting := by
  simp only [advance]
  split
  · exact ⟨rfl, rfl⟩
  · next converting =>
    rw [if_pos]
    · exact ⟨rfl, rfl⟩
    · refine UInt64.not_lt.1 fun past => goes ⟨?_, past⟩
      simpa using converting

theorem Coherent.advance (h : Coherent a) (nanos : Nat) : Coherent (a.advance nanos).1 := by
  by_cases completes : a.Completes nanos
  · rw [advance_of_completes completes, complete_eq]
    generalize hb : ({ a with clock := (a.clock.advance nanos).2 } : Adc) = b
    have unstarted : anySet (b.delivered.regs.get cr2) swstart = false := by
      rw [b.get_delivered_ne (by decide) (by decide), ← hb, h.unstarted]
    split
    · refine ⟨?_, fun _ => ended_start _⟩
      rwa [get_start_ne _ (by decide)]
    · exact ⟨unstarted, nofun⟩
  · obtain ⟨regs, converting⟩ := advance_of_not_completes completes
    refine ⟨by rw [regs, h.unstarted], fun running => ?_⟩
    rw [Adc.ended, regs]
    exact h.running (converting ▸ running)

-- ---------------------------------------------------------------------------
-- A run
-- ---------------------------------------------------------------------------

theorem Coherent.act (h : Coherent a) (action : Action) : Coherent (a.act action) := by
  cases action with
  | access offset size direction payload =>
    exact (performed_access h offset size direction payload).coherent
  | advance nanos => exact h.advance nanos
  | setChannel channel value => exact ⟨h.unstarted, h.running⟩

theorem Coherent.after (h : Coherent a) (actions : List Action) : Coherent (a.after actions) := by
  induction actions generalizing a with
  | nil => exact h
  | cons action rest ih => exact ih (h.act action)

theorem coherent_withClock (hz : UInt64) : Coherent (withClock hz) := by
  refine ⟨?_, nofun⟩
  show anySet ((RegisterFile.reset layout).get cr2) swstart = false
  decide

/-- No step of time clears the flag, since no conversion runs while it is set. -/
theorem ended_act (h : Coherent a) (ended : a.ended = true) {action : Action}
    (keeps : ∀ operation ∈ a.operationsOf action, clears operation = false) :
    (a.act action).ended = true ∧ (a.act action).regs.get dr = a.regs.get dr := by
  cases action with
  | access offset size direction payload =>
    have performed := performed_access h offset size direction payload
    refine ⟨?_, performed.sample⟩
    rw [performed.ended, ended, Bool.true_and, List.all_eq_true]
    intro operation mem
    rw [keeps operation mem]
    rfl
  | advance nanos =>
    have idle : ¬a.Completes nanos := fun completes =>
      Bool.false_ne_true ((h.running completes.1).symm.trans ended)
    have regs := (advance_of_not_completes idle).1
    show (a.advance nanos).1.ended = true ∧ (a.advance nanos).1.regs.get dr = _
    rw [Adc.ended, regs]
    exact ⟨ended, rfl⟩
  | setChannel channel value => exact ⟨ended, rfl⟩

theorem ended_after (h : Coherent a) (ended : a.ended = true) {actions : List Action}
    (keeps : ∀ operation ∈ a.operationsAlong actions, clears operation = false) :
    (a.after actions).ended = true ∧ (a.after actions).regs.get dr = a.regs.get dr := by
  induction actions generalizing a with
  | nil => exact ⟨ended, rfl⟩
  | cons action rest ih =>
    obtain ⟨first, sample⟩ := ended_act h ended fun operation mem =>
      keeps operation (List.mem_append_left _ mem)
    obtain ⟨last, sample'⟩ := ih (h.act action) first fun operation mem =>
      keeps operation (List.mem_append_right _ mem)
    exact ⟨last, sample'.trans sample⟩

-- ---------------------------------------------------------------------------
-- The contract
-- ---------------------------------------------------------------------------

/-- `EOC` is set, and with the sample in `DR` it stays until firmware clears it. -/
def Observable (a : Adc) : Prop :=
  a.ended = true ∧ ∀ actions, (∀ operation ∈ a.operationsAlong actions, clears operation = false) →
    (a.after actions).ended = true ∧ (a.after actions).regs.get dr = a.regs.get dr

structure CompletionContract (a : Adc) (nanos : Nat) : Prop where
  sampled : (a.advance nanos).1.regs.get dr = a.sample
  requests : (a.advance nanos).2 = .line (anySet (a.regs.get cr1) eocie)
  observable : (a.advance nanos).1.Observable ↔ a.continuous = false
  /-- The next conversion has begun and has cleared the flag. -/
  restarted : a.continuous = true → (a.advance nanos).1.ended = false ∧
    (a.advance nanos).1.converting = true ∧ (a.advance nanos).1.remaining = conversionCycles
  accessed : ∀ offset size direction payload,
    let b := (a.advance nanos).1
    (Peripheral.access b offset size direction payload).2.ended =
      (b.ended && (Peripheral.operations b offset size direction payload).all (!clears ·))

theorem completionContract (h : Coherent a) (completes : a.Completes nanos) :
    CompletionContract a nanos := by
  have coherent := h.advance nanos
  have step := (advance_of_completes completes).trans (complete_eq _)
  -- with the clock moved on, the same registers and the same channels
  have sample : ({ a with clock := (a.clock.advance nanos).2 } : Adc).sample = a.sample := rfl
  have again : ({ a with clock := (a.clock.advance nanos).2 } : Adc).continuous = a.continuous :=
    rfl
  have mask : ({ a with clock := (a.clock.advance nanos).2 } : Adc).regs.get cr1 = a.regs.get cr1 :=
    rfl
  generalize ({ a with clock := (a.clock.advance nanos).2 } : Adc) = b at step sample again mask
  rw [again] at step
  refine ⟨?_, ?_, ⟨fun observed => ?_, fun single => ?_⟩, fun continuous => ?_, ?_⟩
  · rw [step, ← sample, ← get_delivered_dr]
    split
    · exact get_start_ne _ (by decide)
    · rfl
  · rw [step, mask]
  · refine Bool.eq_false_iff.2 fun continuous => ?_
    have ended := observed.1
    rw [step, if_pos continuous, ended_start] at ended
    exact Bool.false_ne_true ended
  · have ended : (a.advance nanos).1.ended = true := by
      rw [step, single]
      exact ended_delivered b
    exact ⟨ended, fun _ => ended_after coherent ended⟩
  · rw [step, if_pos continuous]
    exact ⟨ended_start _, rfl, rfl⟩
  · intro offset size direction payload b
    exact (performed_access coherent offset size direction payload).ended

/-- Whatever firmware, the host and time have done before. -/
theorem completionContract_after (hz : UInt64) (actions : List Action) (nanos : Nat)
    (completes : ((withClock hz).after actions).Completes nanos) :
    CompletionContract ((withClock hz).after actions) nanos :=
  completionContract ((coherent_withClock hz).after actions) completes

def starting (mode : UInt32) : List Action :=
  [.setChannel 0 100, .access 0x08 .word .write (adon ||| mode).toUInt64,
    .access 0x08 .word .write (adon ||| mode ||| swstart).toUInt64]

theorem completionContract_after_single :
    let a := (withClock defaultHz).after (starting 0)
    CompletionContract a 1000000 ∧ (a.advance 1000000).1.Observable := by
  have contract := completionContract_after defaultHz (starting 0) 1000000 (by decide +kernel)
  exact ⟨contract, contract.observable.2 (by decide +kernel)⟩

theorem not_observable_of_continuous :
    let a := (withClock defaultHz).after (starting cont)
    a.Completes 1000000 ∧ (a.advance 1000000).1.regs.get dr = 100 ∧
      ¬(a.advance 1000000).1.Observable := by
  intro a
  have ended : (a.advance 1000000).1.ended = false := by decide +kernel
  exact ⟨by decide +kernel, by decide +kernel, fun observed =>
    Bool.false_ne_true (ended.symm.trans observed.1)⟩

end

end BoardSim.Adc
