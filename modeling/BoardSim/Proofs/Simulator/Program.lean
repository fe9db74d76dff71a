import BoardSim.Simulator.Lifecycle

/-!
# Programs that run to their end

A handler and the firmware between two blocking points run alike: they make calls, one after the
other, and the simulator answers. `Ends` is that reading of a program, so that a fact about a
function that serves both is proved once.
-/

namespace BoardSim

open MonadCall

/-- Programs that act on a simulator. `Ends p s a t`: from `s` the program `p` neither blocks nor
hangs; it ends with `a`, and the simulator is `t` then. -/
class Programs (σ : outParam Type) (m : Type → Type) [Monad m] [MonadCall σ m] where
  Ends {α : Type} : m α → Simulator σ → α → Simulator σ → Prop
  ends_pure {α : Type} (a : α) (s : Simulator σ) : Ends (pure a) s a s
  ends_bind {α β : Type} {p : m α} {f : α → m β} {s t u : Simulator σ} {a : α} {b : β} :
    Ends p s a t → Ends (f a) t b u → Ends (p >>= f) s b u
  ends_call (c : Call σ) {s : Simulator σ} :
    s.stuck = false → Ends (call c) s (s.answer c).1 (s.answer c).2

namespace Programs

variable {σ : Type}

instance : Programs σ (Isr σ) where
  Ends p s a t := p.run s = (some a, t)
  ends_pure _ _ := rfl
  ends_bind first second := by rw [Isr.run_bind, first]; exact second
  ends_call _ _ _ := rfl

instance : Programs σ (Task σ) where
  Ends {α} p s a t := ∀ f : α → Task σ Bool, (p >>= f).run s = (f a).run t
  ends_pure _ _ _ := rfl
  ends_bind first second f := by rw [bind_assoc, first, second]
  ends_call c s alive f := by
    show Task.run s (.call c f) = _
    rw [Task.run, alive]
    rfl

theorem Isr.run_of_ends {α : Type} {p : Isr σ α} {s t : Simulator σ} {a : α}
    (h : Ends p s a t) : p.run s = (some a, t) := h

/-- A task that ends with an answer of its own is over. -/
theorem Task.run_of_ends {p : Task σ Bool} {s t : Simulator σ} {a : Bool} (h : Ends p s a t) :
    p.run s = (.inl a, t) := by
  have := h pure
  rwa [bind_pure] at this

section
variable {m : Type → Type} [Monad m] [MonadCall σ m] [Programs σ m] {s : Simulator σ}
  (alive : s.stuck = false)
include alive

theorem ends_writeWord {address : UInt64} {word : UInt32} {value : UInt64} {bus : Bus}
    (h : s.bus.access address .word .write word.toUInt64 = (value, bus)) :
    Ends (writeWord address word : m Unit) s () { s with bus } := by
  have called : Ends (call (.access address .word .write word.toUInt64) : m UInt64) s value
      { s with bus } := by
    have := ends_call (m := m) (.access address .word .write word.toUInt64) alive
    simpa only [Simulator.answer, Simulator.access, h] using this
  exact ends_bind called (ends_pure () _)

theorem ends_readWord {address : UInt64} {word : UInt32} {bus : Bus}
    (h : s.bus.access address .word .read 0 = (word.toUInt64, bus)) :
    Ends (readWord address : m UInt32) s word { s with bus } := by
  have called : Ends (call (.access address .word .read 0) : m UInt64) s word.toUInt64
      { s with bus } := by
    have := ends_call (m := m) (.access address .word .read 0) alive
    simpa only [Simulator.answer, Simulator.access, h] using this
  have ended := ends_bind (f := fun value => pure value.toUInt32) called (ends_pure _ _)
  rwa [UInt32.toUInt32_toUInt64] at ended

theorem ends_update (f : σ → σ) :
    Ends (call (.update f) : m Unit) s () { s with memory := f s.memory } :=
  ends_call (.update f) alive

end

end Programs

end BoardSim
