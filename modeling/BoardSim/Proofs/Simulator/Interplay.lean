import BoardSim.Simulator.Lifecycle
import BoardSim.Proofs.Interrupt.Scan
import BoardSim.Proofs.Simulator.Tick

/-!
# Requests beside the stepping loop

A request latches its line, reads the enable bit and wakes the loop; it takes no lock, so it can
fall between any two steps of the loop and of other requests. `Interplay.Step` takes both apart
into what cannot be divided: one access of an atomic word or of the signal slot, or work that only
its own thread can see.

A request on its own is `Simulator.raise` (`Run.call`), and a round of the loop on its own is a
tick (`Run.round`).
-/

namespace BoardSim

variable {σ : Type}

inductive RequestCall where
  | latched (line : UInt32)
  | granted (line : UInt32)
  | returned (line : UInt32) (enabled : Bool)
deriving DecidableEq

namespace RequestCall

def line : RequestCall → UInt32
  | latched line | granted line | returned line _ => line

def inFlight : RequestCall → Bool
  | latched _ | granted _ => true
  | returned .. => false

end RequestCall

inductive LoopPhase where
  | blocked
  | woken
  /-- It has gone through the banks before `bank` and `found` their ready lines. -/
  | scanning (bank : Nat) (found : List UInt32)
  | reading (bank : Nat) (enabled : UInt32) (found : List UInt32)
  | dispatching (rest : List UInt32) (served : Nat)
  /-- It has found `line` enabled and not taken its pending bit yet. -/
  | acknowledging (line : UInt32) (rest : List UInt32) (served : Nat)
  | serving (line : UInt32) (rest : List UInt32) (served : Nat)
  | hung

/-- The signal slot is empty: the loop has received what it held. -/
def Simulator.received (s : Simulator σ) : Simulator σ := { s with signal := none }

structure Interplay (σ : Type) where
  sim : Simulator σ
  phase : LoopPhase := .blocked
  calls : List RequestCall := []

namespace Interplay

def bankLines (bank : Nat) (word : UInt32) : List UInt32 :=
  (LineSet.places word).map (InterruptController.lineAt bank)

def resumed (s : Simulator σ) (rest : List UInt32) (served : Nat) : LoopPhase :=
  if s.stuck then .hung else .dispatching rest (served + 1)

inductive Step (c : Interplay σ) : List InterruptEvent → Interplay σ → Prop where
  | latch (line : UInt32) :
      Step c [.request line]
        { c with sim := c.sim.latch line, calls := .latched line :: c.calls }
  | look (before : List RequestCall) {after : List RequestCall} {line : UInt32} :
      c.calls = before ++ .latched line :: after →
      Step c [] { c with
        calls := before ++
          (if c.sim.bus.controller.isEnabled line then .granted line else .returned line false) ::
            after }
  | wake (before : List RequestCall) {after : List RequestCall} {line : UInt32} :
      c.calls = before ++ .granted line :: after →
      Step c [] { c with
        sim := c.sim.post .wake
        calls := before ++ .returned line true :: after }
  | receive : c.phase = .blocked → c.sim.signal = some .wake →
      Step c [] { c with sim := c.sim.received, phase := .woken }
  /-- The devices move and request their lines. Nothing beside the loop sees how far this has come
  but in the pending bits, and in which order those are set makes no difference. -/
  | advance : c.phase = .woken → c.sim.stuck = false →
      Step c (c.sim.requested.map .request)
        { c with sim := c.sim.updated, phase := .scanning 0 [] }
  | readEnabled {bank : Nat} {found : List UInt32} : c.phase = .scanning bank found →
      bank < c.sim.bus.controller.banks →
      Step c []
        { c with phase := .reading bank (c.sim.bus.controller.enabled.bank bank) found }
  | readPending {bank : Nat} {enabled : UInt32} {found : List UInt32} :
      c.phase = .reading bank enabled found →
      Step c [] { c with
        phase := .scanning (bank + 1)
          (found ++ bankLines bank (enabled &&& c.sim.bus.controller.pending.bank bank)) }
  | scanned {bank : Nat} {found : List UInt32} : c.phase = .scanning bank found →
      c.sim.bus.controller.banks ≤ bank → Step c [] { c with phase := .dispatching found 0 }
  | check {line : UInt32} {rest : List UInt32} {served : Nat} :
      c.phase = .dispatching (line :: rest) served →
      Step c [] { c with
        phase :=
          if c.sim.bus.controller.isEnabled line then .acknowledging line rest served
          else .dispatching rest served }
  | take {line : UInt32} {rest : List UInt32} {served : Nat} :
      c.phase = .acknowledging line rest served →
      c.sim.bus.controller.isPending line = true →
      Step c [.dispatch line] { c with
        sim := c.sim.consume line
        phase := .serving line rest served }
  | pass {line : UInt32} {rest : List UInt32} {served : Nat} :
      c.phase = .acknowledging line rest served →
      c.sim.bus.controller.isPending line = false →
      Step c [] { c with phase := .dispatching rest served }
  | handle {line : UInt32} {rest : List UInt32} {served : Nat} :
      c.phase = .serving line rest served →
      Step c (c.sim.handlerEvents line (c.sim.tick + 1)) { c with
        sim := c.sim.runHandler line (c.sim.tick + 1)
        phase := resumed (c.sim.runHandler line (c.sim.tick + 1)) rest served }
  | finish {served : Nat} : c.phase = .dispatching [] served →
      Step c [] { c with sim := c.sim.endTick (c.sim.tick + 1) served, phase := .blocked }
  | enable (line : UInt32) :
      Step c [.setEnabled line true] { c with sim := c.sim.setEnabled line true }
  /-- Whatever else happens meanwhile without reaching the interrupt controller, the signal slot,
  the handlers or the tick counter. -/
  | elsewhere {t : Simulator σ} : c.sim.SameTables t →
      t.bus.controller = c.sim.bus.controller → t.signal = c.sim.signal →
      Step c [] { c with sim := t }

inductive Run (c : Interplay σ) : List InterruptEvent → Interplay σ → Prop where
  | nil : Run c [] c
  | snoc {h events : List InterruptEvent} {d e : Interplay σ} :
      Run c h d → Step d events e → Run c (h ++ events) e

namespace Run

variable {c d e : Interplay σ} {h k : List InterruptEvent}

theorem single (step : Step c h d) : Run c h d := .snoc .nil step

theorem trans (first : Run c h d) (second : Run d k e) : Run c (h ++ k) e := by
  induction second with
  | nil => rwa [List.append_nil]
  | snoc _ step ih =>
    rw [← List.append_assoc]
    exact .snoc ih step

/-- A step that does nothing to the controller, ahead of a run. -/
theorem head (step : Step c [] d) (run : Run d h e) : Run c h e := (single step).trans run

end Run

-- ---------------------------------------------------------------------------
-- A request on its own
-- ---------------------------------------------------------------------------

/-- A request that nothing comes between is the call that the program makes. -/
theorem Run.call (c : Interplay σ) (line : UInt32) :
    Run c [.request line] { c with
      sim := (c.sim.raise line true).2
      calls := .returned line (c.sim.raise line true).1 :: c.calls } := by
  have latched : Step c _ _ := .latch line
  have looked : Step _ [] _ :=
    .look (c := { c with sim := c.sim.latch line, calls := .latched line :: c.calls }) [] rfl
  refine (Run.snoc (.single latched) looked).trans (k := []) ?_
  simp only [Simulator.raise]
  cases enabled : (c.sim.latch line).bus.controller.isEnabled line with
  | false => exact .nil
  | true => exact .single (.wake [] rfl)

-- ---------------------------------------------------------------------------
-- A round of the loop on its own
-- ---------------------------------------------------------------------------

section
variable (s : Simulator σ) (calls : List RequestCall)

theorem Run.banks {n : Nat} (inside : n ≤ s.bus.controller.banks) :
    Run ⟨s, .scanning 0 [], calls⟩ []
      ⟨s, .scanning n ((List.range n).flatMap fun bank =>
        bankLines bank (s.bus.controller.readyWord bank)), calls⟩ := by
  induction n with
  | zero => exact .nil
  | succ n ih =>
    rw [List.range_succ, List.flatMap_append, List.flatMap_singleton]
    exact ((ih (Nat.le_of_succ_le inside)).snoc (.readEnabled rfl inside)).snoc (.readPending rfl)

theorem Run.scan :
    Run ⟨s, .scanning 0 [], calls⟩ [] ⟨s, .dispatching s.bus.controller.readyLines 0, calls⟩ := by
  rw [← InterruptController.scan_eq_readyLines]
  exact (Run.banks s calls (Nat.le_refl _)).snoc (.scanned rfl (Nat.le_refl _))

variable {s}

theorem Run.skip {line : UInt32} {rest : List UInt32} {served : Nat}
    (unready : s.bus.controller.isReady line = false) :
    Run ⟨s, .dispatching (line :: rest) served, calls⟩ [] ⟨s, .dispatching rest served, calls⟩ := by
  have checked : Step ⟨s, .dispatching (line :: rest) served, calls⟩ [] _ := .check rfl
  cases enabled : s.bus.controller.isEnabled line with
  | false => simpa [enabled] using Run.single checked
  | true =>
    have idle : s.bus.controller.isPending line = false := by
      simpa [InterruptController.isReady, enabled] using unready
    simp only [enabled, if_true] at checked
    exact (Run.single checked).snoc (.pass rfl idle)

theorem Run.serve {line : UInt32} (rest : List UInt32) (served : Nat)
    (ready : s.bus.controller.isReady line = true) :
    Run ⟨s, .dispatching (line :: rest) served, calls⟩
      (.dispatch line :: (s.consume line).handlerEvents line (s.tick + 1))
      ⟨(s.consume line).runHandler line (s.tick + 1),
        resumed ((s.consume line).runHandler line (s.tick + 1)) rest served, calls⟩ := by
  obtain ⟨enabled, pending⟩ := InterruptController.isReady_eq_true.1 ready
  have checked : Step ⟨s, .dispatching (line :: rest) served, calls⟩ [] _ := .check rfl
  simp only [enabled, if_true] at checked
  exact ((Run.single checked).snoc (.take rfl pending)).snoc (.handle rfl)

theorem Run.dispatch (lines : List UInt32) (served : Nat)
    (ended : (s.dispatchLines (s.tick + 1) lines).2.stuck = false) :
    Run ⟨s, .dispatching lines served, calls⟩ (s.dispatchEvents (s.tick + 1) lines)
      ⟨(s.dispatchLines (s.tick + 1) lines).2,
        .dispatching [] (served + (s.dispatchLines (s.tick + 1) lines).1.length), calls⟩ := by
  generalize now : s.tick + 1 = tick at ended ⊢
  induction s, lines using Simulator.dispatchLines_induction tick generalizing served with
  | stopped s lines stuck =>
    rw [Simulator.stuck_dispatchLines_of_stuck stuck] at ended
    cases ended
  | through s => exact .nil
  | skip s line rest going unready ih =>
    rw [Simulator.dispatchLines_skip unready] at ended ⊢
    rw [Simulator.dispatchEvents_skip going unready]
    exact (Run.skip calls unready).trans (ih served now ended)
  | serve s line rest going ready ih =>
    have first := Run.serve calls rest served ready
    rw [Simulator.dispatchLines_serve going ready] at ended ⊢
    rw [Simulator.dispatchEvents_serve going ready, List.length_cons, Nat.add_comm _ 1,
      ← Nat.add_assoc]
    rw [now] at first
    have handled : ((s.consume line).runHandler line tick).stuck = false := by
      refine Bool.eq_false_iff.2 fun stuck => ?_
      rw [Simulator.stuck_dispatchLines_of_stuck stuck] at ended
      cases ended
    rw [resumed, handled] at first
    refine first.trans (ih (served + 1) ?_ ended)
    rw [(Simulator.sameTables_runHandler (s.consume line) line tick).tick]
    exact now

/-- A round that nothing comes between is a tick of the program. -/
theorem Run.round (signalled : s.signal = some .wake) (going : s.stuck = false)
    (ended : s.received.runTick.2.stuck = false) :
    Run ⟨s, .blocked, calls⟩ (s.received.requested.map .request ++ s.received.tickEvents)
      ⟨s.received.runTick.2, .blocked, calls⟩ := by
  have same := s.received.sameTables_updated.tick
  rw [Simulator.snd_runTick, Simulator.stuck_endTick, Simulator.turn, ← same] at ended
  have dispatched := Run.dispatch calls s.received.ready 0 ended
  have kept := (Simulator.sameTables_dispatchLines s.received.updated
    (s.received.updated.tick + 1) s.received.ready).tick
  have finished := dispatched.snoc (.finish rfl)
  simp only [kept, Nat.zero_add, List.append_nil] at finished
  rw [same] at finished
  exact .head (.receive rfl signalled)
    ((Run.single (.advance rfl going)).trans ((Run.scan _ calls).trans finished))

end

end Interplay

end BoardSim
