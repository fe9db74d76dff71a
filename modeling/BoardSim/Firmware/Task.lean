import BoardSim.Firmware.Handler

/-!
# Firmware

The firmware thread runs a `Task`: a finite program that makes calls, installs interrupt handlers
and blocks, either until an interrupt has been dispatched or for a number of ticks. Firmware that
goes round in a loop is a set-up task and one pass of the loop.
-/

namespace BoardSim

inductive Task (σ α : Type) where
  | done (a : α)
  | call (c : Call σ) (next : c.Answer → Task σ α)
  | install (line : UInt32) (handler : Handler σ) (next : Except SimError Unit → Task σ α)
  /-- Block until a line is dispatched. The answer is false when the simulator stops. -/
  | wait (next : Bool → Task σ α)
  /-- Block for a number of ticks. The answer is false when the simulator stops first. -/
  | delay (ticks : UInt64) (next : Bool → Task σ α)
  | hang

namespace Task

variable {σ α β : Type}

def bind : Task σ α → (α → Task σ β) → Task σ β
  | done a, f => f a
  | call c next, f => call c fun answer => (next answer).bind f
  | install line handler next, f => install line handler fun answer => (next answer).bind f
  | wait next, f => wait fun answer => (next answer).bind f
  | delay ticks next, f => delay ticks fun answer => (next answer).bind f
  | hang, _ => hang

instance : Monad (Task σ) where
  pure := done
  bind := bind

theorem bind_done (p : Task σ α) : p.bind done = p := by
  induction p with
  | done a => rfl
  | call c next ih => simp only [bind, ih]
  | install line handler next ih => simp only [bind, ih]
  | wait next ih => simp only [bind, ih]
  | delay ticks next ih => simp only [bind, ih]
  | hang => rfl

theorem bind_assoc {γ : Type} (p : Task σ α) (f : α → Task σ β) (g : β → Task σ γ) :
    (p.bind f).bind g = p.bind fun a => (f a).bind g := by
  induction p with
  | done a => rfl
  | call c next ih => simp only [bind, ih]
  | install line handler next ih => simp only [bind, ih]
  | wait next ih => simp only [bind, ih]
  | delay ticks next ih => simp only [bind, ih]
  | hang => rfl

instance : LawfulMonad (Task σ) :=
  LawfulMonad.mk' (Task σ) bind_done (fun _ _ => rfl) bind_assoc

instance : MonadCall σ (Task σ) where
  call c := call c done

def waitForInterrupt : Task σ Bool := wait done

def delayTicks (ticks : UInt64) : Task σ Bool := delay ticks done

def setHandler (line : UInt32) (handler : Handler σ) : Task σ (Except SimError Unit) :=
  install line handler done

end Task

/-- Firmware: what it does first, and one pass of what it then does again and again. Either ends
the firmware with false. -/
structure Firmware (σ : Type) where
  setup : Task σ Bool
  pass : Task σ Bool := pure false

end BoardSim
