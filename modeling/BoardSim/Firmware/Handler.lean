import BoardSim.Firmware.Call
import BoardSim.Error

/-!
# Interrupt handlers

A handler is a finite program of calls that ends, or one that never returns. It runs inside a
tick: it cannot block, and the calls that would wait for a tick are not among its own.
-/

namespace BoardSim

inductive Isr (σ α : Type) where
  | done (a : α)
  | call (c : Call σ) (next : c.Answer → Isr σ α)
  | hang

namespace Isr

variable {σ α β : Type}

def bind : Isr σ α → (α → Isr σ β) → Isr σ β
  | done a, f => f a
  | call c next, f => call c fun answer => (next answer).bind f
  | hang, _ => hang

instance : Monad (Isr σ) where
  pure := done
  bind := bind

theorem bind_done (p : Isr σ α) : p.bind done = p := by
  induction p with
  | done a => rfl
  | call c next ih => simp only [bind, ih]
  | hang => rfl

theorem bind_assoc {γ : Type} (p : Isr σ α) (f : α → Isr σ β) (g : β → Isr σ γ) :
    (p.bind f).bind g = p.bind fun a => (f a).bind g := by
  induction p with
  | done a => rfl
  | call c next ih => simp only [bind, ih]
  | hang => rfl

instance : LawfulMonad (Isr σ) :=
  LawfulMonad.mk' (Isr σ) bind_done (fun _ _ => rfl) bind_assoc

instance : MonadCall σ (Isr σ) where
  call c := call c done

/-- What a handler is told that tries to install a handler: the table is in use. -/
def installError : SimError := .inHandler "register_isr"

end Isr

/-- What runs when a line is dispatched: it is given the line and the number of the tick. -/
abbrev Handler (σ : Type) := UInt32 → UInt64 → Isr σ Unit

end BoardSim
