import BoardSim.Proofs.Simulator.Frame

/-!
# Firmware that loops on blocking calls

Firmware that a stop can end: it blocks in every round of its loop, and once it is told to exit it
ends without a further round (`Task.Quits`, `Task.Loops`). What such a task does when it runs up to
its next blocking point follows its structure (`Task.Loops.run`, `Task.Quits.run`).

A delay that reaches beyond the largest tick is over at once, so a task that delays in a loop may
never block. `Task.deeds` records the tick that each delay aims at, and with it the calls by which
the firmware changes the devices.
-/

namespace BoardSim

variable {σ : Type}

def Call.wakes : Call σ → Bool
  | .request _ wake => wake
  | _ => false

def Handler.Returns (handler : Handler σ) : Prop :=
  ∀ (s : Simulator σ) (line : UInt32) (tick : UInt64), ((handler line tick).run s).1.isSome = true

inductive Deed (σ : Type) where
  | call (c : Call σ)
  | delay (target : Nat)

def Deed.target? : Deed σ → Option Nat
  | .delay target => some target
  | .call _ => none

def Fit (deeds : List (Deed σ)) : Prop :=
  ∀ target ∈ deeds.filterMap Deed.target?, target < UInt64.size

instance (deeds : List (Deed σ)) : Decidable (Fit deeds) :=
  inferInstanceAs (Decidable (∀ target ∈ deeds.filterMap Deed.target?, target < UInt64.size))

theorem fit_nil : Fit ([] : List (Deed σ)) := nofun

theorem fit_append {a b : List (Deed σ)} : Fit (a ++ b) ↔ Fit a ∧ Fit b := by
  simp only [Fit, List.filterMap_append, List.mem_append, or_imp, forall_and]

theorem Fit.tail {deed : Deed σ} {deeds : List (Deed σ)} (h : Fit (deed :: deeds)) : Fit deeds :=
  (fit_append.1 (show Fit ([deed] ++ deeds) from h)).2

theorem Fit.head {target : Nat} {deeds : List (Deed σ)} (h : Fit (.delay target :: deeds)) :
    target < UInt64.size := h target (by simp [Deed.target?])

def Bus.obey (bus : Bus) : Deed σ → Bus
  | .call (.access address size direction payload) => (bus.access address size direction payload).2
  | .call (.request line _) => { bus with controller := bus.controller.latch line }
  | .call (.setEnabled line on) => { bus with controller := bus.controller.setEnabled line on }
  | .call .ticks | .call .running | .call .memory | .call (.update _) | .delay _ => bus

theorem Simulator.bus_answer (s : Simulator σ) (c : Call σ) :
    (s.answer c).2.bus = s.bus.obey (.call c) := by
  cases c with
  | request line wake =>
    simp only [answer, raise, Bus.obey]
    split <;> rfl
  | _ => rfl

namespace Task

/-- Told to exit, the task ends the firmware: nothing that it comes to blocks or wakes the loop. -/
def Quits : Task σ Bool → Prop
  | .done again => again = false
  | .call c next => c.wakes = false ∧ ∀ answer, (next answer).Quits
  | .install _ handler next => handler.Returns ∧ ∀ answer, (next answer).Quits
  | .wait next => (next false).Quits
  | .delay ticks next => ticks ≠ 0 ∧ (next false).Quits
  | .hang => False

/-- The task comes to a blocking call or ends with an answer in `ends`, and where it blocks it quits
when it is told to and otherwise goes on like this. -/
def Loops (ends : Bool → Prop) : Task σ Bool → Prop
  | .done again => ends again
  | .call _ next => ∀ answer, (next answer).Loops ends
  | .install _ handler next => handler.Returns ∧ ∀ answer, (next answer).Loops ends
  | .wait next => (next false).Quits ∧ (next true).Loops fun _ => True
  | .delay ticks next => ticks ≠ 0 ∧ (next false).Quits ∧ (next true).Loops fun _ => True
  | .hang => False

def deeds (s : Simulator σ) : Task σ Bool → List (Deed σ)
  | .done _ | .hang => []
  | .call c next =>
    if s.stuck && c.usesBus then []
    else .call c :: (next (s.answer c).1).deeds (s.answer c).2
  | .install line handler next =>
    if s.stuck then []
    else
      match s.install line handler with
      | .ok s => (next (.ok ())).deeds s
      | .error e => (next (.error e)).deeds s
  | .wait next =>
    match s.look? s.awaitDispatch with
    | some answer => (next answer).deeds s
    | none => []
  | .delay ticks next =>
    .delay (s.tick.toNat + ticks.toNat) ::
      match s.look? (s.awaitTicks ticks) with
      | some answer => (next answer).deeds s
      | none => []

end Task

/-- A firmware thread between two ticks: it blocks and can be told to exit, or it has ended. -/
inductive Progress.Orderly (tick : UInt64) : Progress σ → Prop where
  | waiting {seen : UInt64} {next : Bool → Task σ Bool} (quits : (next false).Quits)
      (loops : (next true).Loops fun _ => True) : Orderly tick (.blocked (.dispatch seen) next)
  | sleeping {target : UInt64} {next : Bool → Task σ Bool} (ahead : tick < target)
      (quits : (next false).Quits) (loops : (next true).Loops fun _ => True) :
      Orderly tick (.blocked (.tick target) next)
  | returned : Orderly tick .returned

namespace Simulator

def HandlersReturn (s : Simulator σ) : Prop :=
  ∀ line handler, s.handler? line = some handler → handler.Returns

variable {s t : Simulator σ}

theorem HandlersReturn.of_eq (h : s.HandlersReturn) (same : t.handlers = s.handlers) :
    t.HandlersReturn := by
  intro line handler found
  rw [handler?_congr same] at found
  exact h line handler found

theorem install_eq_ok {line : UInt32} {handler : Handler σ}
    (installed : s.install line handler = .ok t) : line.toNat < s.handlers.size ∧
      t = { s with handlers := s.handlers.setIfInBounds line.toNat (some handler) } := by
  unfold install at installed
  split at installed
  · next inside =>
    cases installed
    exact ⟨inside, rfl⟩
  · cases installed

theorem HandlersReturn.install {line : UInt32} {handler : Handler σ} (h : s.HandlersReturn)
    (returns : handler.Returns) (installed : s.install line handler = .ok t) :
    t.HandlersReturn := by
  obtain ⟨inside, rfl⟩ := install_eq_ok installed
  intro other found there
  by_cases same : line.toNat = other.toNat
  · simp [handler?, ← same, inside] at there
    exact there ▸ returns
  · rw [handler?, Array.getElem?_setIfInBounds_ne same] at there
    exact h other found there

/-- A delay that does not aim beyond the largest tick aims ahead. -/
theorem tick_lt_of_fit {ticks : UInt64} (positive : ticks ≠ 0)
    (fits : s.tick.toNat + ticks.toNat < UInt64.size) : s.tick < s.tick + ticks := by
  have some : 0 < ticks.toNat := Nat.pos_of_ne_zero fun none => positive (UInt64.toNat.inj none)
  rw [UInt64.lt_iff_toNat_lt, UInt64.toNat_add, Nat.mod_eq_of_lt fits]
  omega

theorem look?_awaitTicks (going : s.stopping = false) {ticks : UInt64} (positive : ticks ≠ 0)
    (fits : s.tick.toNat + ticks.toNat < UInt64.size) : s.look? (s.awaitTicks ticks) = none := by
  rw [awaitTicks, look?_tick going, if_neg (UInt64.not_le.2 (tick_lt_of_fit positive fits))]

theorem look?_awaitTicks_of_stopping (stopping : s.stopping = true) {ticks : UInt64}
    (positive : ticks ≠ 0) (fits : s.tick.toNat + ticks.toNat < UInt64.size) :
    s.look? (s.awaitTicks ticks) = some false := by
  rw [awaitTicks, look?_tick_of_stopping stopping,
    decide_eq_false (UInt64.not_le.2 (tick_lt_of_fit positive fits))]

end Simulator

namespace Task

variable {s : Simulator σ} {p : Task σ Bool}

/-- The devices change by the calls that a task makes. -/
theorem bus_run (s : Simulator σ) (p : Task σ Bool) :
    (p.run s).2.bus = (p.deeds s).foldl Bus.obey s.bus := by
  induction p generalizing s with
  | done again => rfl
  | call c next ih =>
    unfold run deeds
    split
    · rfl
    · rw [List.foldl_cons, ← s.bus_answer]
      exact ih _ _
  | install line handler next ih =>
    unfold run deeds
    split
    · rfl
    · cases installed : s.install line handler with
      | ok t =>
        obtain ⟨-, rfl⟩ := Simulator.install_eq_ok installed
        exact ih _ _
      | error e => exact ih _ _
  | wait next ih =>
    cases look : s.look? s.awaitDispatch with
    | some answer => simpa only [run, deeds, look] using ih answer s
    | none => simp only [run, deeds, look, List.foldl_nil]
  | delay ticks next ih =>
    cases look : s.look? (s.awaitTicks ticks) with
    | some answer => simpa only [run, deeds, look, List.foldl_cons, Bus.obey] using ih answer s
    | none => simp only [run, deeds, look, List.foldl_cons, List.foldl_nil, Bus.obey]
  | hang => rfl

inductive Outcome (tick : UInt64) (ends : Bool → Prop) : Bool ⊕ Progress σ → Prop where
  | ended {again : Bool} (h : ends again) : Outcome tick ends (.inl again)
  | blocked {progress : Progress σ} (h : progress.Orderly tick) : Outcome tick ends (.inr progress)

theorem Loops.run {ends : Bool → Prop} (loops : p.Loops ends) (alive : s.stuck = false)
    (going : s.stopping = false) (fits : Fit (p.deeds s)) (returning : s.HandlersReturn) :
    Outcome s.tick ends (p.run s).1 ∧ (p.run s).2.HandlersReturn := by
  induction p generalizing s ends with
  | done again => exact ⟨.ended loops, returning⟩
  | call c next ih =>
    have same := s.onChip_answer c
    simp only [deeds, alive, Bool.false_and, Bool.false_eq_true, if_false] at fits
    simp only [Task.run, alive, Bool.false_and, Bool.false_eq_true, if_false]
    rw [← same.tick]
    exact ih _ (loops _) (same.stuck.trans alive) (same.stopping.trans going) fits.tail
      (returning.of_eq (s.sameTables_answer c).handlers)
  | install line handler next ih =>
    obtain ⟨returns, loops⟩ := loops
    simp only [deeds, alive, Bool.false_eq_true, if_false] at fits
    simp only [Task.run, alive, Bool.false_eq_true, if_false]
    cases installed : s.install line handler with
    | ok t =>
      have same := Simulator.onChip_install installed
      rw [installed] at fits
      rw [← same.tick]
      exact ih _ (loops _) (same.stuck.trans alive) (same.stopping.trans going) fits
        (returning.install returns installed)
    | error e =>
      rw [installed] at fits
      exact ih _ (loops _) alive going fits returning
  | wait next ih =>
    simp only [Task.run, Simulator.look?_awaitDispatch going]
    exact ⟨.blocked (.waiting loops.1 loops.2), returning⟩
  | delay ticks next ih =>
    obtain ⟨positive, quits, loops⟩ := loops
    simp only [deeds] at fits
    have within := fits.head
    simp only [Task.run, Simulator.look?_awaitTicks going positive within]
    exact ⟨.blocked (.sleeping (Simulator.tick_lt_of_fit positive within) quits loops), returning⟩
  | hang => exact loops.elim

theorem Quits.run (quits : p.Quits) (alive : s.stuck = false) (stopping : s.stopping = true)
    (fits : Fit (p.deeds s)) (returning : s.HandlersReturn) :
    (p.run s).1 = .inl false ∧ (p.run s).2.signal = s.signal ∧ (p.run s).2.HandlersReturn := by
  induction p generalizing s with
  | done again => exact ⟨congrArg Sum.inl quits, rfl, returning⟩
  | call c next ih =>
    have same := s.onChip_answer c
    have unsignalled : (s.answer c).2.signal = s.signal := by
      cases c with
      | request line wake =>
        have silent : wake = false := quits.1
        simp [Simulator.answer, Simulator.raise, silent, Simulator.latch]
      | _ => rfl
    simp only [deeds, alive, Bool.false_and, Bool.false_eq_true, if_false] at fits
    simp only [Task.run, alive, Bool.false_and, Bool.false_eq_true, if_false]
    rw [← unsignalled]
    exact ih _ (quits.2 _) (same.stuck.trans alive) (same.stopping.trans stopping) fits.tail
      (returning.of_eq (s.sameTables_answer c).handlers)
  | install line handler next ih =>
    obtain ⟨returns, quits⟩ := quits
    simp only [deeds, alive, Bool.false_eq_true, if_false] at fits
    simp only [Task.run, alive, Bool.false_eq_true, if_false]
    cases installed : s.install line handler with
    | ok t =>
      rw [installed] at fits
      have still := returning.install returns installed
      obtain ⟨-, rfl⟩ := Simulator.install_eq_ok installed
      exact ih _ (quits _) alive stopping fits still
    | error e =>
      rw [installed] at fits
      exact ih _ (quits _) alive stopping fits returning
  | wait next ih =>
    have answer : s.look? s.awaitDispatch = some false :=
      Simulator.look?_dispatch_of_stopping stopping _
    simp only [deeds, answer] at fits
    simp only [Task.run, answer]
    exact ih _ quits alive stopping fits returning
  | delay ticks next ih =>
    obtain ⟨positive, quits⟩ := quits
    simp only [deeds] at fits
    have answer := Simulator.look?_awaitTicks_of_stopping stopping positive fits.head
    simp only [answer] at fits
    simp only [Task.run, answer]
    exact ih _ quits alive stopping fits.tail returning
  | hang => exact quits.elim

end Task

end BoardSim
