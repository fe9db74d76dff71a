import BoardSim.Board.GrowthChamber
import BoardSim.Proofs.Board.Acceptance
import BoardSim.Proofs.Board.Pace

/-!
# The range of a board's clocks

A board is accepted with any tick and any clock rate, while a step converts at most 2⁶⁴ - 1 cycles
and drops the rest. `ofBoard_clockContract` says which boards stay below that. The conversions of a
device are exact in every run exactly if tick times rate is at most 2⁶⁴ - 1 cycles, and the sums
that are made with the cycles fit in 64 bits if a few less are due. A board that brings more than
that loses cycles at some tick even if nothing ever happens on it.
-/

namespace BoardSim

-- ---------------------------------------------------------------------------
-- Devices as they are built
-- ---------------------------------------------------------------------------

namespace DeviceEntry

variable {d : DeviceEntry} {controller : InterruptController} {device : Device}

theorem Models.narrow (h : d.Models controller device) : device.Narrow := by
  cases h with
  | timer kind clock =>
    have words : Timer.NarrowWords (.reset Timer.layout) := ⟨by decide, by decide, by decide⟩
    exact ⟨Nat.zero_lt_succ _, words⟩
  | can kind bus fits =>
    have reset : (RegisterFile.reset Can.Controller.layout).get Can.Controller.timer = 0 := by
      rw [RegisterFile.get_reset Can.Controller.timer_lt_length]
      exact Can.Controller.reset_timer
    show ((RegisterFile.reset Can.Controller.layout).get Can.Controller.timer).toNat < 65536
    rw [reset]
    decide
  | _ => trivial

theorem Models.remainder (h : d.Models controller device) {clock : TickClock}
    (clocked : device.clock? = some clock) : clock.remainder = 0 := by
  cases h <;> cases clocked <;> rfl

theorem Models.paced (h : d.Models controller device) : device.Paced device where
  rate := rfl
  slack := rfl
  fraction clock clocked := by
    rw [h.remainder clocked]
    decide
  narrow := h.narrow

end DeviceEntry

-- ---------------------------------------------------------------------------
-- A board on which nothing happens
-- ---------------------------------------------------------------------------

namespace Simulator

variable {σ : Type}

/-- No handler, no firmware and no stepping loop: only ticks change anything. -/
structure Idle (s : Simulator σ) : Prop where
  handlers : ∀ line, s.handler? line = none
  thread : s.thread = none
  running : s.running = false
  stuck : s.stuck = false

theorem idle_new (config : SimConfig) (memory : σ) : (new config memory).Idle where
  handlers line := by
    unfold handler? new
    rw [Array.getElem?_replicate]
    split <;> rfl
  thread := rfl
  running := rfl
  stuck := rfl

/-- Without handlers a dispatch consumes lines and tells the observers. -/
theorem dispatchLines_of_unhandled {s : Simulator σ} (handlers : ∀ line, s.handler? line = none)
    (tick : UInt64) (lines : List UInt32) :
    ∃ controller observers, (s.dispatchLines tick lines).2 =
      { s with bus := { s.bus with controller }, observers } := by
  induction s, lines using dispatchLines_induction tick with
  | stopped s lines h =>
    rw [dispatchLines_of_stuck h]
    exact ⟨_, _, rfl⟩
  | through s h => exact ⟨_, _, rfl⟩
  | skip s line rest h unready ih =>
    rw [dispatchLines_skip unready]
    exact ih handlers
  | serve s line rest h ready ih =>
    have unhandled : (s.consume line).handler? line = none := handlers line
    have alone := runHandler_of_none unhandled tick
    rw [dispatchLines_serve h ready]
    rw [alone] at ih ⊢
    exact ih handlers

theorem Idle.runTick {s : Simulator σ} (h : s.Idle) :
    ∃ controller observers dispatched, s.runTick.2 =
      { s with
        bus := { s.updated.bus with controller }
        observers
        tick := s.tick + 1
        dispatched } := by
  obtain ⟨told, moved⟩ := s.updated_eq
  have handlers (line : UInt32) : s.updated.handler? line = none := by
    rw [moved]
    exact h.handlers line
  obtain ⟨controller, observers, served⟩ :=
    dispatchLines_of_unhandled handlers (s.tick + 1) s.ready
  have going : ¬ s.updated.stuck = true := by
    rw [moved]
    exact Bool.eq_false_iff.1 h.stuck
  rw [snd_runTick, turn, served, endTick, if_neg going, moved]
  exact ⟨_, _, _, rfl⟩

/-- A step of an idle board moves the devices, and nothing else happens that a device notices. -/
theorem Idle.step {s : Simulator σ} (h : s.Idle) :
    s.step.2.Idle ∧ s.step.2.config = s.config ∧
      s.step.2.bus.entries = s.bus.entries.map fun e => (Bus.advanceEntry s.config.tick e).1 := by
  obtain ⟨controller, observers, dispatched, ticked⟩ := h.runTick
  have alone : s.runTick.2.resume = s.runTick.2 := by
    rw [ticked, resume, h.thread]
  have once : s.stepOnce.2 = s.runTick.2 := by
    rw [stepOnce, if_neg (Bool.eq_false_iff.1 h.stuck)]
    exact alone
  have still : s.runTick.2.awaited = false := by
    rw [ticked, awaited, h.running]
    rfl
  have stepped : s.step.2 = s.runTick.2 := by
    show s.stepOnce.2.serve = s.runTick.2
    rw [once, serve, if_neg (Bool.eq_false_iff.1 still)]
  rw [stepped, ticked, ← s.entries_updated]
  exact ⟨⟨h.handlers, h.thread, h.running, h.stuck⟩, rfl, rfl⟩

theorem after_replicate_step (s : Simulator σ) (ticks : Nat) :
    s.after (.replicate (ticks + 1) .step) = s.step.2.after (.replicate ticks .step) := rfl

/-- On an idle board every step moves a clock on by the board's tick. -/
theorem Idle.clock_after {s : Simulator σ} (h : s.Idle) {i : Nat} {e : Entry} {clock : TickClock}
    (here : s.bus.entries[i]? = some e) (clocked : e.device.clock? = some clock) (ticks : Nat) :
    ∃ e', (s.after (.replicate ticks .step)).bus.entries[i]? = some e' ∧
      e'.device.clock? = some (clock.later s.config.tick ticks) := by
  induction ticks generalizing s e clock with
  | zero => exact ⟨e, here, clocked⟩
  | succ ticks ih =>
    obtain ⟨idle, config, entries⟩ := h.step
    have there : s.step.2.bus.entries[i]? = some (Bus.advanceEntry s.config.tick e).1 := by
      rw [entries, Array.getElem?_map, here]
      rfl
    have moved : (Bus.advanceEntry s.config.tick e).1.device.clock? =
        some (clock.advance s.config.tick).2 := by
      refine (e.device.clock?_advance s.config.tick).trans ?_
      rw [clocked]
      rfl
    rw [after_replicate_step, ← config]
    exact ih idle there (config ▸ moved)

-- ---------------------------------------------------------------------------
-- The contract
-- ---------------------------------------------------------------------------

/-- What the rate of its clock means to device `i` of a board, which has been built to `e`. Every
tick of every run finds the device as something that it `Becomes`. -/
structure ClockContract (board : Board) (s : Simulator σ) (i : Nat) (e : Entry)
    (clock : TickClock) : Prop where
  runs : ∀ actions, ∃ e', (s.after actions).bus.entries[i]? = some e' ∧
    e.Leads board.simulation.tickNanos e'
  rate : ∀ d, e.device.Becomes board.simulation.tickNanos d →
    ∃ clock', d.clock? = some clock' ∧ clock'.hz = clock.hz
  exact_iff : (∀ d, e.device.Becomes board.simulation.tickNanos d →
      d.Converts board.simulation.tickNanos) ↔
    board.simulation.tickMicros.toNat * clock.hz.toNat ≤ (UInt64.size - 1) * 1000000
  /-- Otherwise cycles are lost even on a board that is left alone. -/
  loses : (UInt64.size - 1) * 1000000 < board.simulation.tickMicros.toNat * clock.hz.toNat →
    ∃ ticks e' clock', (s.after (.replicate ticks .step)).bus.entries[i]? = some e' ∧
      e'.device.clock? = some clock' ∧
      (clock'.advance board.simulation.tickNanos).1.toNat <
        clock'.due board.simulation.tickNanos / nanosPerSecond
  sums : board.simulation.tickMicros.toNat * clock.hz.toNat ≤
      (UInt64.size - 1 - e.device.slack) * 1000000 →
    ∀ d, e.device.Becomes board.simulation.tickNanos d → d.SumsFit board.simulation.tickNanos
  sums_iff : ∀ d clock', e.device.Becomes board.simulation.tickNanos d →
    d.clock? = some clock' →
      (d.SumsFit board.simulation.tickNanos ↔
        d.Room (clock'.advance board.simulation.tickNanos).1.toNat)
  /-- No board makes do with less room than a full counter takes up. That is all that is needed,
  but for the phase of a prescaler: it depends on the cycles of all steps how large that gets. -/
  needs : (∀ d, e.device.Becomes board.simulation.tickNanos d →
      d.Converts board.simulation.tickNanos ∧ d.SumsFit board.simulation.tickNanos) →
    board.simulation.tickMicros.toNat * clock.hz.toNat ≤
      (UInt64.size - 1 - e.device.counter) * 1000000

theorem within_capacity_iff (settings : Settings) (hz slack : Nat) :
    settings.tickNanos * hz ≤ TickClock.capacity slack ↔
      settings.tickMicros.toNat * hz ≤ (UInt64.size - 1 - slack) * 1000000 := by
  rw [Settings.tickNanos, TickClock.capacity, Nat.mul_right_comm]
  unfold UInt64.size nanosPerSecond
  omega

section
variable {board : Board} {memory : σ} {s : Simulator σ} (built : ofBoard board memory = .ok s)
include built

theorem tick_ofBoard : s.config.tick = board.simulation.tickNanos := by
  rw [(carries_ofBoardBy built).rest]
  rfl

theorem idle_ofBoard : s.Idle := by
  rw [(carries_ofBoardBy built).rest]
  exact ⟨(idle_new board.simulation.toConfig memory).handlers, rfl, rfl, rfl⟩

variable {i : Nat} {e : Entry} (here : s.bus.entries[i]? = some e)
include here

theorem paced_of_becomes {d : Device} (becomes : e.device.Becomes board.simulation.tickNanos d) :
    e.device.Paced d := by
  obtain ⟨d₀, -, builds⟩ := (carries_ofBoardBy built).exists_device (Array.mem_of_getElem? here)
  exact (DeviceEntry.models_of_build builds.device).paced.becomes becomes

theorem leads_of_after (actions : List (HostAction σ)) :
    ∃ e', (s.after actions).bus.entries[i]? = some e' ∧
      e.Leads board.simulation.tickNanos e' := by
  rw [← tick_ofBoard built]
  exact (s.leads_after actions).entry i e here

variable {clock : TickClock} (clocked : e.device.clock? = some clock)
include clocked

/-- The fraction of a cycle grows from step to step, until a tick brings a cycle too many. -/
theorem exists_not_exact_after (beyond : (UInt64.size - 1) * 1000000 <
    board.simulation.tickMicros.toNat * clock.hz.toNat) :
    ∃ ticks e' clock', (s.after (.replicate ticks .step)).bus.entries[i]? = some e' ∧
      e'.device.clock? = some clock' ∧ ¬ clock'.Exact board.simulation.tickNanos := by
  have excess : TickClock.capacity 0 < board.simulation.tickNanos * clock.hz.toNat :=
    Nat.lt_of_not_le fun within =>
      Nat.not_le_of_lt beyond ((within_capacity_iff _ _ 0).1 within)
  obtain ⟨ticks, inexact⟩ := TickClock.exists_not_exact excess
  obtain ⟨e', there, found⟩ := (idle_ofBoard built).clock_after here clocked ticks
  rw [tick_ofBoard built] at found
  exact ⟨ticks, e', _, there, found, inexact⟩

/-- Conversions are exact within 2⁶⁴ - 1 cycles to the tick, and no others are. -/
theorem ofBoard_clockContract : ClockContract board s i e clock where
  runs := leads_of_after built here
  rate d becomes := (paced_of_becomes built here becomes).clock? clocked
  exact_iff := by
    constructor
    · intro exact
      refine Nat.le_of_not_lt fun beyond => ?_
      obtain ⟨ticks, e', clock', there, found, inexact⟩ :=
        exists_not_exact_after built here clocked beyond
      obtain ⟨e'', there', leads⟩ := leads_of_after built here (.replicate ticks .step)
      cases there.symm.trans there'
      obtain ⟨clock'', found', exact⟩ := exact _ leads.device
      cases found.symm.trans found'
      exact inexact exact
    · intro within d becomes
      exact (paced_of_becomes built here becomes).converts clocked
        ((within_capacity_iff _ _ 0).2 within)
  loses beyond := by
    obtain ⟨ticks, e', clock', there, found, inexact⟩ :=
      exists_not_exact_after built here clocked beyond
    exact ⟨ticks, e', clock', there, found, TickClock.cycles_lt_of_not_exact inexact⟩
  sums within d becomes :=
    (paced_of_becomes built here becomes).sumsFit clocked ((within_capacity_iff _ _ _).2 within)
  sums_iff _ _ _ found := Device.sumsFit_iff found _
  needs exact := (within_capacity_iff _ _ _).1
    ((paced_of_becomes built here .refl).le_capacity_counter clocked exact)

end

/-- The timer of the growth chamber, at a thousand cycles to the tick. -/
theorem ofBoard_clockContract_growthChamber :
    ∃ s, ofBoard Board.growthChamber () = .ok s ∧
      ∃ e clock, s.bus.entries[2]? = some e ∧ e.device.clock? = some clock ∧
        ClockContract Board.growthChamber s 2 e clock ∧
        ∀ d, e.device.Becomes 1000000 d → d.Converts 1000000 := by
  obtain ⟨s, built, e, clock, here, clocked, rate⟩ :
      ∃ s, ofBoard Board.growthChamber () = .ok s ∧ ∃ e clock, s.bus.entries[2]? = some e ∧
        e.device.clock? = some clock ∧ clock.hz = 1000000 := ⟨_, rfl, _, _, rfl, rfl, rfl⟩
  have contract := ofBoard_clockContract built here clocked
  refine ⟨s, built, e, clock, here, clocked, contract, contract.exact_iff.2 ?_⟩
  rw [rate]
  decide

def fastTimer : Board where
  name := "b"
  simulation := { tickMicros := 4000000 }
  devices := [
    { id := "tim", kind := "timer", baseAddress := 0x40000000,
      config := [("clock_hz", .int 4611686018427387904)] }]

/-- The board is accepted, and its first tick makes 2⁶⁴ cycles into none. -/
theorem not_exact_of_fast_timer :
    fastTimer.validate = .ok () ∧
      ∃ s, ofBoard fastTimer () = .ok s ∧ ∃ e clock, s.bus.entries[0]? = some e ∧
        e.device.clock? = some clock ∧
        clock.due s.config.tick = UInt64.size * nanosPerSecond ∧
        (clock.advance s.config.tick).1 = 0 ∧ ¬ e.device.Converts s.config.tick := by
  refine ⟨rfl, _, rfl, _, _, rfl, rfl, rfl, rfl, ?_⟩
  rintro ⟨clock, clocked, exact⟩
  cases clocked
  exact absurd exact.quotient (by decide)

end Simulator

end BoardSim
