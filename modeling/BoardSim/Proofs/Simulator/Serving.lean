import BoardSim.Simulator.Tick
import BoardSim.Proofs.Interrupt.Recording

/-!
# Serving interrupt lines

What calls, handlers and the dispatch of a list of lines do to the interrupt controller, as the
events they bring about in order. Each `controller_*` theorem says that the events account for the
controller afterwards; `dispatchLines_append` cuts a dispatch at any line, which gives the state at
that line's turn.
-/

namespace BoardSim

variable {σ α : Type}

namespace Simulator

-- ---------------------------------------------------------------------------
-- Calls and handlers
-- ---------------------------------------------------------------------------

def callEvents (s : Simulator σ) : Call σ → List InterruptEvent
  | .access address size direction payload => s.bus.accessEvents address size direction payload
  | .request line _ => [.request line]
  | .setEnabled line on => [.setEnabled line on]
  | .ticks | .running | .memory | .update _ => []

theorem controller_answer (s : Simulator σ) (c : Call σ) :
    (s.answer c).2.bus.controller = s.bus.controller.after (s.callEvents c) := by
  cases c with
  | access address size direction payload => exact s.bus.controller_access _ _ _ _
  | request line wake =>
    simp only [answer, raise, callEvents]
    split <;> rfl
  | _ => rfl

theorem served?_of_mem_callEvents {s : Simulator σ} {c : Call σ} {e : InterruptEvent}
    (h : e ∈ s.callEvents c) : e.served? = none := by
  cases c with
  | access address size direction payload =>
    obtain ⟨group, bank, word, rfl⟩ := s.bus.mem_accessEvents _ _ _ _ h
    rfl
  | request line wake => rw [List.mem_singleton.1 h]; rfl
  | setEnabled line on => rw [List.mem_singleton.1 h]; rfl
  | _ => cases h

/-- Code on the chip leaves the handler table and the tick counter alone. -/
structure SameTables (s t : Simulator σ) : Prop where
  handlers : t.handlers = s.handlers
  tick : t.tick = s.tick

theorem SameTables.refl (s : Simulator σ) : s.SameTables s := ⟨rfl, rfl⟩

theorem SameTables.trans {r s t : Simulator σ} (a : r.SameTables s) (b : s.SameTables t) :
    r.SameTables t :=
  ⟨b.handlers.trans a.handlers, b.tick.trans a.tick⟩

theorem sameTables_answer (s : Simulator σ) (c : Call σ) : s.SameTables (s.answer c).2 := by
  cases c with
  | request line wake =>
    simp only [answer, raise]
    split <;> exact ⟨rfl, rfl⟩
  | _ => exact ⟨rfl, rfl⟩

end Simulator

namespace Isr

def events (s : Simulator σ) : Isr σ α → List InterruptEvent
  | .done _ | .hang => []
  | .call c next => s.callEvents c ++ (next (s.answer c).1).events (s.answer c).2

theorem controller_run (s : Simulator σ) (p : Isr σ α) :
    (p.run s).2.bus.controller = s.bus.controller.after (p.events s) := by
  induction p generalizing s with
  | done a => rfl
  | call c next ih =>
    rw [events, InterruptController.after_append, ← s.controller_answer]
    exact ih _ _
  | hang => rfl

theorem served?_of_mem_events {s : Simulator σ} {p : Isr σ α} {e : InterruptEvent}
    (h : e ∈ p.events s) : e.served? = none := by
  induction p generalizing s with
  | done a => cases h
  | call c next ih =>
    rcases List.mem_append.1 h with h | h
    · exact Simulator.served?_of_mem_callEvents h
    · exact ih _ h
  | hang => cases h

theorem sameTables_run (s : Simulator σ) (p : Isr σ α) : s.SameTables (p.run s).2 := by
  induction p generalizing s with
  | done a => exact .refl s
  | call c next ih => exact (s.sameTables_answer c).trans (ih _ _)
  | hang => exact .refl s

end Isr

namespace Simulator

-- ---------------------------------------------------------------------------
-- One line
-- ---------------------------------------------------------------------------

/-- The state in which the handler of a line starts: the pending bit is gone, the observers know. -/
def consume (s : Simulator σ) (line : UInt32) : Simulator σ :=
  { s with bus := { s.bus with controller := s.bus.controller.clearPending line } }.notify
    (.lineDispatched line)

def handler? (s : Simulator σ) (line : UInt32) : Option (Handler σ) :=
  (s.handlers[line.toNat]?).join

theorem runHandler_of_some {s : Simulator σ} {line : UInt32} {handler : Handler σ}
    (h : s.handler? line = some handler) (tick : UInt64) :
    s.runHandler line tick =
      if ((handler line tick).run s).1.isNone then
        { ((handler line tick).run s).2 with stuck := true }
      else ((handler line tick).run s).2 := by
  have found : s.handlers[line.toNat]? = some (some handler) := Option.join_eq_some_iff.1 h
  simp [runHandler, found]

theorem runHandler_of_none {s : Simulator σ} {line : UInt32} (h : s.handler? line = none)
    (tick : UInt64) : s.runHandler line tick = s := by
  unfold runHandler
  split
  · next found => simp [handler?, found] at h
  · rfl

def handlerEvents (s : Simulator σ) (line : UInt32) (tick : UInt64) : List InterruptEvent :=
  match s.handler? line with
  | some handler => (handler line tick).events s
  | none => []

theorem controller_runHandler (s : Simulator σ) (line : UInt32) (tick : UInt64) :
    (s.runHandler line tick).bus.controller =
      s.bus.controller.after (s.handlerEvents line tick) := by
  unfold handlerEvents
  split
  · next handler h =>
    rw [runHandler_of_some h, ← Isr.controller_run]
    split <;> rfl
  · next h =>
    rw [runHandler_of_none h]
    rfl

theorem served?_of_mem_handlerEvents {s : Simulator σ} {line : UInt32} {tick : UInt64}
    {e : InterruptEvent} (h : e ∈ s.handlerEvents line tick) : e.served? = none := by
  unfold handlerEvents at h
  split at h
  · exact Isr.served?_of_mem_events h
  · cases h

theorem sameTables_runHandler (s : Simulator σ) (line : UInt32) (tick : UInt64) :
    s.SameTables (s.runHandler line tick) := by
  cases h : s.handler? line with
  | none =>
    rw [runHandler_of_none h]
    exact .refl s
  | some handler =>
    have run := Isr.sameTables_run s (handler line tick)
    rw [runHandler_of_some h]
    split
    · exact ⟨run.handlers, run.tick⟩
    · exact run

theorem dispatchLine_of_ready {s : Simulator σ} {line : UInt32}
    (h : s.bus.controller.isReady line = true) (tick : UInt64) :
    s.dispatchLine line tick = (true, (s.consume line).runHandler line tick) := by
  simp [dispatchLine, consume, InterruptController.fst_acknowledge, h,
    InterruptController.snd_acknowledge_of_ready h]

theorem dispatchLine_of_not_ready {s : Simulator σ} {line : UInt32}
    (h : s.bus.controller.isReady line = false) (tick : UInt64) :
    s.dispatchLine line tick = (false, s) := by
  simp [dispatchLine, InterruptController.fst_acknowledge, h,
    InterruptController.snd_acknowledge_of_not_ready h]

end Simulator

end BoardSim
