import BoardSim.Demo.Firmware

/-!
# The sampling pipeline

What the demo firmware does on the growth-chamber board, tick by tick and without a board: a sample
is due in the tick after every hundredth, it waits in a message buffer until the bus is free, and a
frame that waits on the bus goes before it. `Counted` holds whatever comes from the bus;
`Undisturbed` says where the pipeline is when nothing comes.
-/

namespace BoardSim.Demo

/-- The filter of the receiving buffer lets the frame in and the buffer stores it. -/
def bringsSetpoint (frame : Can.Frame) : Bool :=
  !frame.extended && !frame.remote && frame.id &&& Can.standardIdMask == setpointId

def setpointOf (frame : Can.Frame) : UInt32 := (Can.Word.data frame.data).1 >>> 16

structure Pipeline where
  ticks : Nat := 0
  waiting : List Can.Frame := []
  taken : List Can.Frame := []
  samples : Nat := 0
  armed : Bool := false
  sent : Nat := 0

namespace Pipeline

def period : Nat := 100

def converting (p : Pipeline) : Bool := 0 < p.ticks && p.ticks % period == 0

def setpoint (p : Pipeline) : UInt32 :=
  ((p.taken.filter bringsSetpoint).getLast?.map setpointOf).getD 0

/-- One step of the CAN controller, which only leaves its freeze mode in the first. -/
def exchange (p : Pipeline) : Pipeline :=
  if p.ticks = 0 then p
  else
    match p.waiting with
    | frame :: waiting => { p with waiting, taken := p.taken ++ [frame] }
    | [] => if p.armed then { p with armed := false, sent := p.sent + 1 } else p

def sample (p : Pipeline) : Pipeline :=
  if p.converting then { p with samples := p.samples + 1, armed := true } else p

def inject (p : Pipeline) (frames : List Can.Frame) : Pipeline :=
  { p with waiting := p.waiting ++ frames }

def tick (p : Pipeline) : Pipeline := { p.exchange.sample with ticks := p.ticks + 1 }

def step (p : Pipeline) (frames : List Can.Frame) : Pipeline := (p.inject frames).tick

def run (schedule : List (List Can.Frame)) : Pipeline := schedule.foldl step {}

/-- What every step keeps, every run keeps. -/
theorem run_induction {P : Pipeline → Prop} {schedule : List (List Can.Frame)} (start : P {})
    (step : ∀ p, ∀ frames ∈ schedule, P p → P (p.step frames)) : P (run schedule) :=
  List.foldlRecOn schedule Pipeline.step start fun p h frames mem => step p frames mem h

theorem ticks_run (schedule : List (List Can.Frame)) : (run schedule).ticks = schedule.length := by
  have fold (p : Pipeline) : (schedule.foldl step p).ticks = p.ticks + schedule.length := by
    induction schedule generalizing p with
    | nil => rfl
    | cons frames rest ih =>
      rw [List.foldl_cons, ih, List.length_cons]
      show p.ticks + 1 + rest.length = _
      omega
  rw [run, fold]
  exact Nat.zero_add _

/-- Sending moves a sample from the buffer to the bus, and nothing else of the account. -/
theorem exchange_account (p : Pipeline) :
    p.exchange.ticks = p.ticks ∧ p.exchange.samples = p.samples ∧
      p.exchange.sent + p.exchange.armed.toNat = p.sent + p.armed.toNat := by
  unfold exchange
  split
  · exact ⟨rfl, rfl, rfl⟩
  · split
    · exact ⟨rfl, rfl, rfl⟩
    · split
      · next armed => simp [armed]
      · exact ⟨rfl, rfl, rfl⟩

theorem converting_eq_true {p : Pipeline} :
    p.converting = true ↔ 0 < p.ticks ∧ p.ticks % period = 0 := by
  simp [converting]

/-- One sample for every period that was over before the last tick, and none is sent twice. -/
structure Counted (p : Pipeline) : Prop where
  samples : p.samples = (p.ticks - 1) / period
  sent : p.sent + p.armed.toNat ≤ p.samples

theorem Counted.tick {p : Pipeline} (h : p.Counted) : p.tick.Counted := by
  obtain ⟨samples, sent⟩ := h
  obtain ⟨ticks, kept, account⟩ := p.exchange_account
  have due : p.exchange.converting = true ↔ 0 < p.ticks ∧ p.ticks % period = 0 := by
    rw [converting_eq_true, ticks]
  unfold period at samples due
  constructor
  · show p.exchange.sample.samples = (p.ticks + 1 - 1) / period
    unfold sample period
    split
    · next converting =>
      have := due.1 converting
      show p.exchange.samples + 1 = p.ticks / 100
      omega
    · next idle =>
      rw [due] at idle
      omega
  · show p.exchange.sample.sent + p.exchange.sample.armed.toNat ≤ p.exchange.sample.samples
    unfold sample
    split
    · show p.exchange.sent + 1 ≤ p.exchange.samples + 1
      omega
    · omega

theorem counted_run (schedule : List (List Can.Frame)) : (run schedule).Counted :=
  run_induction ⟨rfl, Nat.le_refl _⟩ fun p frames _ ⟨samples, sent⟩ =>
    Counted.tick (p := p.inject frames) ⟨samples, sent⟩

structure Undisturbed (p : Pipeline) : Prop where
  waiting : p.waiting = []
  armed : p.armed = true ↔ 1 < p.ticks ∧ p.ticks % period = 1
  sent : p.sent = (p.ticks - 2) / period

theorem Undisturbed.exchange {p : Pipeline} (h : p.Undisturbed) :
    p.exchange = { p with armed := false, sent := (p.ticks - 1) / period } := by
  obtain ⟨waiting, armed, sent⟩ := h
  obtain ⟨ticks, _, taken, samples, ready, count⟩ := p
  unfold period at *
  simp only at *
  subst waiting
  unfold Pipeline.exchange
  cases ready with
  | true =>
    have := armed.1 rfl
    rw [if_neg (show ¬ticks = 0 by omega), if_pos rfl]
    simp
    omega
  | false =>
    have := mt armed.2 Bool.false_ne_true
    split <;> simp <;> omega

theorem Undisturbed.tick {p : Pipeline} (h : p.Undisturbed) : p.tick.Undisturbed := by
  have converting := converting_eq_true (p := p.exchange)
  rw [Pipeline.tick]
  unfold sample
  rw [h.exchange] at *
  unfold period at *
  split
  · next due =>
    have := converting.1 due
    refine ⟨h.waiting, ?_, by simp [period]⟩
    simp [period]
    simp at this
    omega
  · next idle =>
    rw [converting] at idle
    refine ⟨h.waiting, ?_, by simp [period]⟩
    simp [period]
    simp at idle
    omega

theorem undisturbed_run {schedule : List (List Can.Frame)}
    (silent : ∀ frames ∈ schedule, frames = []) : (run schedule).Undisturbed := by
  refine run_induction ⟨rfl, by simp, rfl⟩ fun p frames mem h => ?_
  rw [silent frames mem]
  have same : p.inject [] = p := by rw [inject, List.append_nil]
  rw [step, same]
  exact h.tick

end Pipeline

end BoardSim.Demo
