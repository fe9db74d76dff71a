import Mathlib.Data.List.Forall2
import BoardSim.Board.Build
import BoardSim.Proofs.Bus.Routing

/-!
# What a board is built to

Every device of the board becomes an entry of the bus, in the order of the board and at the place
that the board gives it. Nothing else of the simulator depends on the devices. What the board writes
as a size is read by `parse`, of which nothing is known.
-/

namespace BoardSim

variable {σ : Type} {parse : SizeParser}

theorem Board.nodup_of_validateDevices {seen : List String} {devices : List DeviceEntry}
    (valid : validateDevices seen devices = .ok ()) :
    (devices.map (·.id)).Nodup ∧ ∀ d ∈ devices, d.id ∉ seen := by
  induction devices generalizing seen with
  | nil => exact ⟨.nil, nofun⟩
  | cons d rest ih =>
    simp only [validateDevices, bind, Except.bind] at valid
    split at valid
    · cases valid
    split at valid
    · cases valid
    next fresh =>
    split at valid
    · cases valid
    obtain ⟨nodup, apart⟩ := ih valid
    have new : d.id ∉ seen := by simpa [throw, throwThe, MonadExceptOf.throw] using fresh
    refine ⟨List.nodup_cons.2 ⟨fun mem => ?_, nodup⟩,
      List.forall_mem_cons.2 ⟨new, fun d' mem => ?_⟩⟩
    · obtain ⟨d', mem, same⟩ := List.mem_map.1 mem
      exact apart d' mem (same ▸ List.mem_cons_self)
    · exact fun seen => apart d' mem (List.mem_cons_of_mem _ seen)

theorem Board.nodup_ids {board : Board} (valid : board.validate = .ok ()) :
    (board.devices.map (·.id)).Nodup := by
  simp only [validate, bind, Except.bind] at valid
  split at valid
  · cases valid
  split at valid
  · cases valid
  split at valid
  · cases valid
  exact (nodup_of_validateDevices valid).1

structure DeviceEntry.BuildsTo (parse : SizeParser) (controller : InterruptController)
    (d : DeviceEntry) (e : Entry) : Prop where
  name : e.name = d.id
  base : e.base = d.baseAddress
  size : d.sizeBytesBy parse = .ok e.size
  irq : e.irq = d.line?
  device : d.build controller = .ok e.device

namespace Simulator

/-- The simulator `s` maps the devices, in this order, and is otherwise new. -/
structure Carries (parse : SizeParser) (devices : List DeviceEntry) (config : SimConfig)
    (memory : σ) (s : Simulator σ) : Prop where
  rest : s = { new config memory with bus := s.bus }
  controller : s.bus.controller = .withLines config.irqLines
  traffic : s.bus.traffic = #[]
  mapped : s.bus.Mapped
  entries : devices.Forall₂ (DeviceEntry.BuildsTo parse s.bus.controller) s.bus.entries.toList

theorem carries_new (config : SimConfig) (memory : σ) :
    Carries parse [] config memory (new config memory) where
  rest := rfl
  controller := rfl
  traffic := rfl
  mapped := Bus.mapped_empty _
  entries := .nil

theorem addEntryBy_eq_ok {s s' : Simulator σ} {d : DeviceEntry}
    (h : s.addEntryBy parse d = .ok s') :
    ∃ e index, d.BuildsTo parse s.bus.controller e ∧ s.bus.register e = .ok (index, s'.bus) ∧
      s' = { s with bus := s'.bus } := by
  simp only [addEntryBy, addDevice, bind, Except.bind] at h
  split at h
  · cases h
  next device built =>
  split at h
  · cases h
  next size sized =>
  split at h
  · next added =>
    split at added
    · cases added
    · next registered =>
      cases added
      cases h
      exact ⟨_, _, ⟨rfl, rfl, sized, rfl, built⟩, registered, rfl⟩
  · cases h

theorem Carries.addEntryBy {devices : List DeviceEntry} {config : SimConfig} {memory : σ}
    {s s' : Simulator σ} {d : DeviceEntry} (h : Carries parse devices config memory s)
    (added : s.addEntryBy parse d = .ok s') : Carries parse (devices ++ [d]) config memory s' := by
  obtain ⟨e, index, builds, registered, same⟩ := addEntryBy_eq_ok added
  have mapped := h.mapped.attempt e
  rw [Bus.attempt, registered] at mapped
  obtain ⟨map, -, bus_eq⟩ := Bus.register_eq_ok registered
  have controller : s'.bus.controller = s.bus.controller := by rw [bus_eq]
  refine ⟨?_, controller.trans h.controller, ?_, mapped, ?_⟩
  · rw [same, h.rest]
  · rw [bus_eq]
    exact h.traffic
  · rw [controller, bus_eq, Array.toList_push]
    exact List.rel_append h.entries (.cons builds .nil)

theorem carries_ofBoardBy {board : Board} {memory : σ} {s : Simulator σ}
    (built : ofBoardBy parse board memory = .ok s) :
    Carries parse board.devices board.simulation.toConfig memory s := by
  have run (done rest : List DeviceEntry) (s₀ : Simulator σ)
      (h : Carries parse done board.simulation.toConfig memory s₀)
      (run : rest.foldlM (Simulator.addEntryBy parse) s₀ = .ok s) :
      Carries parse (done ++ rest) board.simulation.toConfig memory s := by
    induction rest generalizing done s₀ with
    | nil =>
      cases run
      rwa [List.append_nil]
    | cons d rest ih =>
      rw [List.foldlM_cons] at run
      cases added : s₀.addEntryBy parse d with
      | error e => rw [added] at run; cases run
      | ok s₁ =>
        rw [added] at run
        rw [List.append_cons]
        exact ih _ s₁ (h.addEntryBy added) run
  exact run [] board.devices _ (carries_new _ _) built

theorem Carries.names {devices : List DeviceEntry} {config : SimConfig} {memory : σ}
    {s : Simulator σ} (h : Carries parse devices config memory s) :
    s.bus.entries.toList.map Entry.name = devices.map (·.id) := by
  obtain ⟨-, -, -, -, entries⟩ := h
  generalize s.bus.entries.toList = mapped at entries
  induction entries with
  | nil => rfl
  | cons builds _ ih => rw [List.map_cons, List.map_cons, builds.name, ih]

/-- The device that a name means on the bus is the one that it means on the board. -/
theorem Carries.find? {devices : List DeviceEntry} {config : SimConfig} {memory : σ}
    {s : Simulator σ} (h : Carries parse devices config memory s) {name : String} {e : Entry}
    (found : s.bus.find? name = some e) :
    ∃ d, devices.find? (·.id == name) = some d ∧ d.BuildsTo parse s.bus.controller e := by
  rw [Bus.find?, ← Array.find?_toList] at found
  obtain ⟨-, -, -, -, entries⟩ := h
  generalize s.bus.entries.toList = mapped at found entries
  induction entries with
  | nil => cases found
  | @cons d e' _ _ builds _ ih =>
    rw [List.find?_cons, builds.name] at found
    rw [List.find?_cons]
    split at found
    · cases found
      exact ⟨d, rfl, builds⟩
    · exact ih found

end Simulator

end BoardSim
