import BoardSim.Interrupt.View

/-!
# Interrupt events

Everything that changes an interrupt controller is one of five events, and each event changes a
single line in a way that can be told from the event alone: `isPending_apply` and
`isEnabled_apply`. `InterruptController.after` is the controller that a list of events leaves.

A list of events is admitted by a controller if every dispatch in it consumes a line that is ready
at that moment. In such a list two dispatches of a line have a request of it between them.
-/

namespace BoardSim

namespace LineSet

variable {banks : Nat}

/-- Whether `line` is one of the lines that the bits of `word` stand for in bank `n`. -/
def selects (n : Nat) (word line : UInt32) : Bool := bankOf line == n && (word &&& bitOf line != 0)

theorem has_setMask (s : LineSet banks) (n : Nat) (mask line : UInt32) :
    (s.setMask n mask).has line = (s.has line || (selects n mask line && decide (n < banks))) := by
  simp only [has, bank_setMask, selects]
  by_cases e : bankOf line = n
  · subst e
    by_cases h : bankOf line < banks <;> simp [h, and_bitOf]
  · simp [e]

theorem has_clearMask (s : LineSet banks) (n : Nat) (mask line : UInt32) :
    (s.clearMask n mask).has line = (s.has line && !selects n mask line) := by
  have place : line.toNat % 32 < 32 := Nat.mod_lt _ (by decide)
  simp only [has, bank_clearMask, selects]
  by_cases e : bankOf line = n
  · subst e
    by_cases h : bankOf line < banks
    · simp [h, and_bitOf, place]
    · simp [h, s.bank_of_le (Nat.not_lt.1 h)]
  · simp [e]

/-- Two sets with the same lines are the same set. -/
theorem ext_has {a b : LineSet banks} (bound : banks * 32 < 4294967296)
    (h : ∀ line, a.has line = b.has line) : a = b := by
  obtain ⟨a⟩ := a
  obtain ⟨b⟩ := b
  congr
  apply Vector.ext
  intro n hn
  apply UInt32.eq_of_toBitVec_eq
  apply BitVec.eq_of_getLsbD_eq
  intro i hi
  obtain ⟨line, hl⟩ : ∃ line : UInt32, line.toNat = n * 32 + i :=
    ⟨UInt32.ofNat (n * 32 + i), by rw [UInt32.toNat_ofNat']; omega⟩
  have bank : bankOf line = n := by
    simp only [bankOf, UInt32.toNat_div, hl]
    simp
    omega
  have place : (n * 32 + i) % 32 = i := by omega
  simpa [has, and_bitOf, hl, bank, place, LineSet.bank, hn] using h line

end LineSet

inductive InterruptEvent where
  /-- A line is asked for, by a device in its step or by a call. -/
  | request (line : UInt32)
  | dispatch (line : UInt32)
  | clear (line : UInt32)
  | setEnabled (line : UInt32) (on : Bool)
  | write (group : InterruptView.Group) (bank : Nat) (word : UInt32)
deriving DecidableEq

namespace InterruptEvent

def requests (line : UInt32) : InterruptEvent → Bool
  | request other => line == other
  | write .setPending bank word => LineSet.selects bank word line
  | _ => false

/-- The event takes the pending bit of `line` away without serving the line. -/
def clears (line : UInt32) : InterruptEvent → Bool
  | clear other => line == other
  | write .clearPending bank word => LineSet.selects bank word line
  | _ => false

def enables (line : UInt32) : InterruptEvent → Bool
  | setEnabled other true => line == other
  | write .setEnable bank word => LineSet.selects bank word line
  | _ => false

def disables (line : UInt32) : InterruptEvent → Bool
  | setEnabled other false => line == other
  | write .clearEnable bank word => LineSet.selects bank word line
  | _ => false

def served? : InterruptEvent → Option UInt32
  | dispatch line => some line
  | _ => none

theorem served?_eq_some {e : InterruptEvent} {line : UInt32} :
    e.served? = some line ↔ e = .dispatch line := by
  cases e <;> simp [served?]

theorem enables_of_requests {e : InterruptEvent} {line : UInt32} (h : e.requests line = true) :
    e.enables line = false := by
  cases e with
  | write group bank word => cases group <;> first | rfl | cases h
  | request other => rfl
  | _ => cases h

end InterruptEvent

namespace InterruptController

def writeGroup (c : InterruptController) (group : InterruptView.Group) (bank : Nat)
    (word : UInt32) : InterruptController :=
  match group with
  | .setEnable => { c with enabled := c.enabled.setMask bank word }
  | .clearEnable => { c with enabled := c.enabled.clearMask bank word }
  | .setPending => { c with pending := c.pending.setMask bank word }
  | .clearPending => { c with pending := c.pending.clearMask bank word }

def apply (c : InterruptController) : InterruptEvent → InterruptController
  | .request line => c.latch line
  | .dispatch line | .clear line => c.clearPending line
  | .setEnabled line on => c.setEnabled line on
  | .write group bank word => c.writeGroup group bank word

def after (c : InterruptController) (events : List InterruptEvent) : InterruptController :=
  events.foldl apply c

@[simp] theorem after_nil (c : InterruptController) : c.after [] = c := rfl

@[simp] theorem after_cons (c : InterruptController) (e : InterruptEvent)
    (events : List InterruptEvent) : c.after (e :: events) = (c.apply e).after events := rfl

@[simp] theorem after_append (c : InterruptController) (a b : List InterruptEvent) :
    c.after (a ++ b) = (c.after a).after b := List.foldl_append ..

@[simp] theorem lineCount_apply (c : InterruptController) (e : InterruptEvent) :
    (c.apply e).lineCount = c.lineCount := by
  cases e with
  | write group bank word => cases group <;> rfl
  | _ => rfl

@[simp] theorem lineCount_after (c : InterruptController) (events : List InterruptEvent) :
    (c.after events).lineCount = c.lineCount := by
  induction events generalizing c with
  | nil => rfl
  | cons e rest ih => rw [after_cons, ih, lineCount_apply]

-- ---------------------------------------------------------------------------
-- One line
-- ---------------------------------------------------------------------------

theorem selects_and_lt (c : InterruptController) (bank : Nat) (word : UInt32) {line : UInt32}
    (h : line < c.lineCount) :
    (LineSet.selects bank word line && decide (bank < c.banks)) =
      LineSet.selects bank word line := by
  have := (c.bankOf_lt_banks line).2 h
  by_cases e : LineSet.bankOf line = bank
  · subst e; simp [this]
  · simp [LineSet.selects, e]

/-- An event gives a line its pending bit by requesting it and takes it away by serving or
clearing it. -/
theorem isPending_apply (c : InterruptController) (e : InterruptEvent) {line : UInt32}
    (h : line < c.lineCount) :
    (c.apply e).isPending line =
      ((c.isPending line || e.requests line) && !(e.served? == some line || e.clears line)) := by
  cases e with
  | request other =>
    simp only [apply, isPending_latch, InterruptEvent.requests, InterruptEvent.served?,
      InterruptEvent.clears]
    by_cases e : line = other
    · subst e; simp [h]
    · simp [e]
  | dispatch other | clear other =>
    simp only [apply, isPending_clearPending, InterruptEvent.requests, InterruptEvent.served?,
      InterruptEvent.clears]
    by_cases e : line = other
    · subst e; simp
    · simp [e, Ne.symm e]
  | setEnabled other on =>
    simp [apply, isPending_setEnabled, InterruptEvent.requests, InterruptEvent.served?,
      InterruptEvent.clears]
  | write group bank word =>
    cases group <;>
      simp [apply, writeGroup, isPending, InterruptEvent.requests, InterruptEvent.served?,
        InterruptEvent.clears, LineSet.has_setMask, LineSet.has_clearMask, c.selects_and_lt _ _ h]

theorem isEnabled_apply (c : InterruptController) (e : InterruptEvent) {line : UInt32}
    (h : line < c.lineCount) :
    (c.apply e).isEnabled line = ((c.isEnabled line || e.enables line) && !e.disables line) := by
  cases e with
  | request other => simp [apply, isEnabled_latch, InterruptEvent.enables, InterruptEvent.disables]
  | dispatch other | clear other =>
    simp [apply, isEnabled_clearPending, InterruptEvent.enables, InterruptEvent.disables]
  | setEnabled other on =>
    simp only [apply, isEnabled_setEnabled]
    by_cases e : line = other
    · subst e
      cases on <;> simp [h, InterruptEvent.enables, InterruptEvent.disables]
    · cases on <;> simp [e, InterruptEvent.enables, InterruptEvent.disables]
  | write group bank word =>
    cases group <;>
      simp [apply, writeGroup, isEnabled, InterruptEvent.enables, InterruptEvent.disables,
        LineSet.has_setMask, LineSet.has_clearMask, c.selects_and_lt _ _ h]

theorem isReady_eq_true {c : InterruptController} {line : UInt32} :
    c.isReady line = true ↔ c.isEnabled line = true ∧ c.isPending line = true :=
  Bool.and_eq_true_iff

-- ---------------------------------------------------------------------------
-- Histories
-- ---------------------------------------------------------------------------

def Admits (c : InterruptController) : List InterruptEvent → Prop
  | [] => True
  | e :: rest => (∀ line, e.served? = some line → c.isReady line = true) ∧ (c.apply e).Admits rest

theorem admits_append {c : InterruptController} {a b : List InterruptEvent} :
    c.Admits (a ++ b) ↔ c.Admits a ∧ (c.after a).Admits b := by
  induction a generalizing c with
  | nil => simp [Admits]
  | cons e rest ih => simp [Admits, ih, and_assoc]

theorem admits_of_forall_served? {c : InterruptController} {events : List InterruptEvent}
    (h : ∀ e ∈ events, e.served? = none) : c.Admits events := by
  induction events generalizing c with
  | nil => trivial
  | cons e rest ih =>
    refine ⟨fun line served => ?_, ih fun e he => h e (List.mem_cons_of_mem _ he)⟩
    rw [h e List.mem_cons_self] at served
    cases served

section
variable {c : InterruptController} {line : UInt32} {e : InterruptEvent}
  {events : List InterruptEvent}

theorem after_induction {P : InterruptController → Prop} (start : P c)
    (step : ∀ d, ∀ e ∈ events, d.lineCount = c.lineCount → P d → P (d.apply e)) :
    P (c.after events) := by
  induction events generalizing c with
  | nil => exact start
  | cons e rest ih =>
    refine ih (step c e List.mem_cons_self rfl start) fun d e he count => ?_
    exact step d e (List.mem_cons_of_mem _ he) (count.trans (lineCount_apply _ _))

/-- A pending bit that nobody clears stays until its line is served. -/
theorem isPending_after (inRange : line < c.lineCount) (pending : c.isPending line = true)
    (kept : ∀ e ∈ events, e.clears line = false)
    (unserved : ∀ e ∈ events, e.served? ≠ some line) : (c.after events).isPending line = true := by
  refine after_induction (P := (·.isPending line = true)) pending fun d e he count hd => ?_
  have served : (e.served? == some line) = false := by simpa using unserved e he
  rw [isPending_apply _ _ (count ▸ inRange), hd, kept e he, served]
  rfl

theorem not_isPending_after (inRange : line < c.lineCount) (idle : c.isPending line = false)
    (quiet : ∀ e ∈ events, e.requests line = false) : (c.after events).isPending line = false := by
  refine after_induction (P := (·.isPending line = false)) idle fun d e he count hd => ?_
  rw [isPending_apply _ _ (count ▸ inRange), hd, quiet e he]
  rfl

theorem isEnabled_after (inRange : line < c.lineCount) (enabled : c.isEnabled line = true)
    (kept : ∀ e ∈ events, e.disables line = false) : (c.after events).isEnabled line = true := by
  refine after_induction (P := (·.isEnabled line = true)) enabled fun d e he count hd => ?_
  rw [isEnabled_apply _ _ (count ▸ inRange), hd, kept e he]
  rfl

theorem not_isEnabled_after (inRange : line < c.lineCount) (disabled : c.isEnabled line = false)
    (quiet : ∀ e ∈ events, e.enables line = false) : (c.after events).isEnabled line = false := by
  refine after_induction (P := (·.isEnabled line = false)) disabled fun d e he count hd => ?_
  rw [isEnabled_apply _ _ (count ▸ inRange), hd, quiet e he]
  rfl

theorem isPending_apply_of_requests (inRange : line < c.lineCount) (h : e.requests line = true) :
    (c.apply e).isPending line = true := by
  have only : (e.served? == some line || e.clears line) = false := by
    cases e with
    | request other => rfl
    | write group bank word => cases group <;> first | rfl | cases h
    | _ => cases h
  rw [isPending_apply _ _ inRange, h, only]
  simp

theorem not_isPending_apply_dispatch : (c.apply (.dispatch line)).isPending line = false := by
  simp [apply, isPending_clearPending]

theorem snd_acknowledge_of_ready (h : c.isReady line = true) :
    (c.acknowledge line).2 = c.clearPending line := by
  simp [acknowledge, (isReady_eq_true.1 h).1]

theorem snd_acknowledge_of_not_ready (h : c.isReady line = false) :
    (c.acknowledge line).2 = c := by
  unfold acknowledge
  split
  · next enabled =>
    have idle : c.pending.has line = false := by simpa [isReady, isPending, enabled] using h
    have bound : c.banks * 32 < 4294967296 := by
      have := c.banks_le
      simp only [linesPerBank, maxLines] at this
      omega
    have same : c.pending.erase line = c.pending := by
      refine LineSet.ext_has bound fun other => ?_
      rw [LineSet.has_erase]
      by_cases e : other = line
      · rw [e, idle]; rfl
      · simp [e]
    simp only [clearPending, same]
  · rfl

theorem requests_of_rise (inRange : line < c.lineCount) (before : c.isPending line = false)
    (after : (c.apply e).isPending line = true) : e.requests line = true := by
  rw [isPending_apply _ _ inRange, before, Bool.false_or, Bool.and_eq_true] at after
  exact after.1

theorem served_or_clears_of_fall (inRange : line < c.lineCount) (before : c.isPending line = true)
    (after : (c.apply e).isPending line = false) :
    e.served? = some line ∨ e.clears line = true := by
  rw [isPending_apply _ _ inRange, before] at after
  simpa [Classical.or_iff_not_imp_left] using after

/-- A dispatch leaves its line idle and the next one finds it pending. -/
theorem exists_request_between {a b d : List InterruptEvent} (inRange : line < c.lineCount)
    (h : c.Admits (a ++ .dispatch line :: b ++ .dispatch line :: d)) :
    ∃ e ∈ b, e.requests line = true := by
  refine Classical.byContradiction fun none => ?_
  have quiet : ∀ e ∈ b, e.requests line = false := fun e he =>
    Bool.not_eq_true _ ▸ fun requested => none ⟨e, he, requested⟩
  have idle : (c.after (a ++ .dispatch line :: b)).isPending line = false := by
    rw [after_append, after_cons]
    exact not_isPending_after (by simpa using inRange) not_isPending_apply_dispatch quiet
  have ready := (admits_append.1 h).2.1 line rfl
  rw [isReady_eq_true, idle] at ready
  cases ready.2

end

end InterruptController

end BoardSim
