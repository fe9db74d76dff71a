import BoardSim.Bus.Basic
import BoardSim.Proofs.Interrupt.Event
import BoardSim.Proofs.Peripheral.Access

/-!
# Recorded accesses

What one bus access does to the interrupt controller, as a list of events. The list is not chosen
to fit: it is written down by the access itself, run on a controller that records the words written
to its view. `Bus.controller_access` says that these events account for the whole change.
-/

namespace BoardSim

/-- A controller behind its view, with the writes to the view so far. -/
structure RecordedController where
  mapped : MappedController
  events : List InterruptEvent := []

namespace RecordedController

def commit (r : RecordedController) (i : Nat) (word : UInt32) : RecordedController where
  mapped := r.mapped.commit i word
  events := r.events ++ [.write (r.mapped.decode i).1 (r.mapped.decode i).2 word]

instance : Peripheral RecordedController where
  layout r := Peripheral.layout r.mapped
  held r i := Peripheral.held r.mapped i
  put r i word := { r with mapped := Peripheral.put r.mapped i word }
  fetch r i := ((r.mapped.fetch i).1, { r with mapped := (r.mapped.fetch i).2 })
  commit := commit

/-- Recording changes nothing that is recorded. -/
theorem hom_mapped : Peripheral.Hom mapped where
  layout _ := rfl
  held _ _ := rfl
  put _ _ _ := rfl
  fetch _ _ := rfl
  commit _ _ _ := rfl

theorem controller_commit (m : MappedController) (i : Nat) (word : UInt32) :
    (m.commit i word).controller =
      m.controller.apply (.write (m.decode i).1 (m.decode i).2 word) := by
  cases h : (m.decode i).1 <;>
    simp [MappedController.commit, InterruptController.apply, InterruptController.writeGroup, h]

def Accounts (c : InterruptController) (r : RecordedController) : Prop :=
  r.mapped.controller = c.after r.events

theorem kept_accounts (c : InterruptController) : Peripheral.Kept (Accounts c) where
  fetch _ _ h := h
  settle r i h := by
    unfold Peripheral.settle
    split <;> exact h
  commit r i word h := by
    show (r.mapped.commit i word).controller = c.after (r.events ++ [_])
    rw [controller_commit, InterruptController.after_append, ← show _ = _ from h]
    rfl

def OnlyWrites (r : RecordedController) : Prop :=
  ∀ e ∈ r.events, ∃ group bank word, e = .write group bank word

theorem kept_onlyWrites : Peripheral.Kept OnlyWrites where
  fetch _ _ h := h
  settle r i h := by
    unfold Peripheral.settle
    split <;> exact h
  commit r i word h := by
    intro e he
    rcases List.mem_append.1 he with he | he
    · exact h e he
    · exact ⟨_, _, _, List.mem_singleton.1 he⟩

end RecordedController

namespace Bus

variable (bus : Bus) (address : UInt64) (size : AccessSize) (direction : Direction)
  (payload : UInt64)

/-- What an access does to the interrupt controller: nothing unless it reaches a view. -/
def accessEvents : List InterruptEvent :=
  match bus.map.resolve address with
  | none => []
  | some (index, offset) =>
    match (bus.entries[index]?).map Entry.device with
    | some (.view v) =>
      let recorded : RecordedController := { mapped := ⟨v, bus.controller⟩ }
      (Peripheral.access recorded offset size direction payload).2.events
    | _ => []

theorem controller_access :
    (bus.access address size direction payload).2.controller =
      bus.controller.after (bus.accessEvents address size direction payload) := by
  simp only [access, accessEvents]
  cases bus.map.resolve address with
  | none => rfl
  | some target =>
    obtain ⟨index, offset⟩ := target
    cases he : bus.entries[index]? with
    | none => simp [he]
    | some entry =>
      simp only [he, Option.map_some]
      cases hd : entry.device with
      | view v =>
        let recorded : RecordedController := { mapped := ⟨v, bus.controller⟩ }
        have same := RecordedController.hom_mapped.access recorded offset size direction payload
        have accounted : RecordedController.Accounts bus.controller _ :=
          (RecordedController.kept_accounts bus.controller).access (d := recorded) rfl offset size
            direction payload
        rw [← accounted]
        exact congrArg (·.2.controller) same
      | _ => rfl

theorem mem_accessEvents {e : InterruptEvent}
    (h : e ∈ bus.accessEvents address size direction payload) :
    ∃ group bank word, e = .write group bank word := by
  unfold accessEvents at h
  split at h
  · cases h
  · split at h
    · exact RecordedController.kept_onlyWrites.access (by simp [RecordedController.OnlyWrites])
        _ _ _ _ e h
    · cases h

end Bus

end BoardSim
