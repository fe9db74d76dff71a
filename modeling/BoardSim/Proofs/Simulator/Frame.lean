import BoardSim.Simulator.Lifecycle
import BoardSim.Proofs.Simulator.Serving

/-!
# What code on the chip leaves alone

Handlers and firmware reach the devices, the handler table, the signal of the stepping loop and
their own memory. Everything else of a simulator is the host's and the ticks' (`OnChip`).
-/

namespace BoardSim

variable {σ : Type}

namespace Simulator

/-- From `s` to a state that code on the chip can bring about. -/
inductive OnChip (s : Simulator σ) : Simulator σ → Prop where
  | mk (bus : Bus) (handlers : Array (Option (Handler σ))) (signal : Option Signal) (memory : σ) :
      OnChip s { s with bus, handlers, signal, memory }

namespace OnChip

variable {r s t : Simulator σ}

theorem refl (s : Simulator σ) : s.OnChip s := ⟨s.bus, s.handlers, s.signal, s.memory⟩

theorem trans (first : r.OnChip s) (second : s.OnChip t) : r.OnChip t := by
  cases first
  cases second
  constructor

section
variable (h : s.OnChip t)
include h

theorem observers : t.observers = s.observers := by cases h; rfl

theorem tick : t.tick = s.tick := by cases h; rfl

theorem running : t.running = s.running := by cases h; rfl

theorem stopping : t.stopping = s.stopping := by cases h; rfl

theorem stepping : t.stepping = s.stepping := by cases h; rfl

theorem stuck : t.stuck = s.stuck := by cases h; rfl

theorem thread : t.thread = s.thread := by cases h; rfl

end

end OnChip

theorem onChip_raise (s : Simulator σ) (line : UInt32) (wake : Bool) :
    s.OnChip (s.raise line wake).2 := by
  simp only [raise]
  split
  · exact ⟨_, s.handlers, _, s.memory⟩
  · exact ⟨_, s.handlers, s.signal, s.memory⟩

theorem onChip_answer (s : Simulator σ) (c : Call σ) : s.OnChip (s.answer c).2 := by
  cases c with
  | access address size direction payload => exact ⟨_, s.handlers, s.signal, s.memory⟩
  | request line wake => exact s.onChip_raise line wake
  | setEnabled line on => exact ⟨_, s.handlers, s.signal, s.memory⟩
  | ticks | running | memory => exact .refl s
  | update f => exact ⟨s.bus, s.handlers, s.signal, _⟩

theorem onChip_isr {α : Type} (s : Simulator σ) (p : Isr σ α) : s.OnChip (p.run s).2 := by
  induction p generalizing s with
  | done a => exact .refl s
  | call c next ih => exact (s.onChip_answer c).trans (ih _ _)
  | hang => exact .refl s

theorem onChip_install {s t : Simulator σ} {line : UInt32} {handler : Handler σ}
    (installed : s.install line handler = .ok t) : s.OnChip t := by
  unfold install at installed
  split at installed
  · cases installed
    exact ⟨s.bus, _, s.signal, s.memory⟩
  · cases installed

theorem onChip_task (s : Simulator σ) (p : Task σ Bool) : s.OnChip (p.run s).2 := by
  induction p generalizing s with
  | done again => exact .refl s
  | call c next ih =>
    unfold Task.run
    split
    · exact .refl s
    · exact (s.onChip_answer c).trans (ih _ _)
  | install line handler next ih =>
    unfold Task.run
    split
    · exact .refl s
    · split
      · next installed => exact (onChip_install installed).trans (ih _ _)
      · exact ih _ s
  | wait next ih | delay ticks next ih =>
    unfold Task.run
    split
    · exact ih _ s
    · exact .refl s
  | hang => exact .refl s

theorem onChip_runPass (s : Simulator σ) (pass : Task σ Bool) : s.OnChip (s.runPass pass).2 := by
  have run := s.onChip_task pass
  unfold runPass
  split <;> next ended => rw [ended] at run; exact run

theorem onChip_runTask (s : Simulator σ) (task pass : Task σ Bool) :
    s.OnChip (s.runTask task pass).2 := by
  have run := s.onChip_task task
  unfold runTask
  split
  · next again =>
    rw [again] at run
    exact run.trans (onChip_runPass _ pass)
  · next ended => rw [ended] at run; exact run
  · next blocked => rw [blocked] at run; exact run

theorem onChip_resumeThread (s : Simulator σ) (thread : Thread σ) :
    s.OnChip (s.resumeThread thread).2 := by
  unfold resumeThread
  split
  · split
    · exact s.onChip_runTask _ _
    · exact .refl s
  · exact s.onChip_runPass _
  · exact .refl s
  · exact .refl s

/-- When the firmware runs on, its thread gets on and nothing else changes but by its calls. -/
theorem exists_onChip_resume (s : Simulator σ) : ∃ thread, { s with thread }.OnChip s.resume := by
  unfold resume
  split
  · exact ⟨s.thread, .refl s⟩
  · next thread _ =>
    have run := s.onChip_resumeThread thread
    generalize s.resumeThread thread = ended at run
    obtain ⟨progress, t⟩ := ended
    refine ⟨some { thread with progress }, ?_⟩
    cases run
    constructor

/-- A handler program can moreover end a tick for good. -/
theorem exists_onChip_runHandler (s : Simulator σ) (line : UInt32) (tick : UInt64) :
    ∃ stuck, { s with stuck }.OnChip (s.runHandler line tick) := by
  cases h : s.handler? line with
  | none =>
    rw [runHandler_of_none h]
    exact ⟨s.stuck, .refl s⟩
  | some handler =>
    have run := s.onChip_isr (handler line tick)
    rw [runHandler_of_some h]
    split
    · refine ⟨true, ?_⟩
      generalize ((handler line tick).run s).2 = t at run
      cases run
      constructor
    · refine ⟨s.stuck, run⟩

-- ---------------------------------------------------------------------------
-- The handler table
-- ---------------------------------------------------------------------------

theorem handler?_congr {s t : Simulator σ} (same : t.handlers = s.handlers) (line : UInt32) :
    t.handler? line = s.handler? line := by
  rw [handler?, same, handler?]

theorem handler?_new (config : SimConfig) (memory : σ) (line : UInt32) :
    (new config memory).handler? line = none := by
  simp only [handler?, new, Array.getElem?_replicate]
  split <;> rfl

end Simulator

end BoardSim
