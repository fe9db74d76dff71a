import Mathlib.Logic.Relation
import BoardSim.Simulator.Lifecycle
import BoardSim.Proofs.Simulator.Tick

/-!
# What a run does to the devices

Firmware, handlers, the host and the passing of time act on the devices of a board in any order.
Whoever it is, a device sees three kinds of changes: accesses, steps of the board's tick, and what
the host does at its outer end (`Device.Change`). `leads_after` says of every run that nothing else
happens to a device, so what the three changes keep of a device holds at every tick of every run.
-/

namespace BoardSim

variable {σ : Type}

-- ---------------------------------------------------------------------------
-- One device
-- ---------------------------------------------------------------------------

/-- What the host can make of a device without going through the bus. -/
inductive Device.Served : Device → Device → Prop where
  | rest (d : Device) : Served d d
  | uart (u u' : Uart) : Served (.uart u) (.uart u')
  | spi (s s' : Spi) : Served (.spi s) (.spi s')
  | adc (a : Adc) (channel : Nat) (value : UInt16) :
      Served (.adc a) (.adc (a.setChannel channel value))
  | can {c c' : Can.Controller} (regs : c'.regs = c.regs) (mode : c'.mode = c.mode)
      (clock : c'.clock = c.clock) : Served (.can c) (.can c')

def Device.traced : Device → Device
  | .can c => .can c.startTrace
  | d => d

theorem Device.served_traced (d : Device) : d.Served d.traced := by
  cases d with
  | can c => exact .can rfl rfl rfl
  | _ => exact .rest _

inductive Device.Change (nanos : Nat) (d : Device) : Device → Prop where
  | access (controller : InterruptController) (offset : UInt64) (size : AccessSize)
      (direction : Direction) (payload : UInt64) :
      Change nanos d (d.access controller offset size direction payload).2.1
  | advance : Change nanos d (Bus.takeTraffic (d.advance nanos).1).2
  | serve {d' : Device} (served : d.Served d') : Change nanos d d'

/-- Any number of changes, one after the other; each finds the device as the last has left it. -/
def Device.Becomes (nanos : Nat) : Device → Device → Prop :=
  Relation.ReflTransGen (Device.Change nanos)

structure Entry.Leads (nanos : Nat) (e e' : Entry) : Prop where
  place : e' = { e with device := e'.device }
  device : e.device.Becomes nanos e'.device

namespace Entry.Leads

variable {nanos : Nat} {e e' e'' : Entry}

theorem refl (e : Entry) : e.Leads nanos e := ⟨rfl, .refl⟩

theorem change {d : Device} (h : e.device.Change nanos d) : e.Leads nanos { e with device := d } :=
  ⟨rfl, .single h⟩

theorem trans (first : e.Leads nanos e') (second : e'.Leads nanos e'') : e.Leads nanos e'' where
  place := by
    rw [second.place, first.place]
  device := first.device.trans second.device

end Entry.Leads

-- ---------------------------------------------------------------------------
-- All devices
-- ---------------------------------------------------------------------------

namespace Simulator

structure Leads (s t : Simulator σ) : Prop where
  config : t.config = s.config
  size : t.bus.entries.size = s.bus.entries.size
  entry : ∀ (i : Nat) (e : Entry), s.bus.entries[i]? = some e →
    ∃ e' : Entry, t.bus.entries[i]? = some e' ∧ e.Leads s.config.tick e'

namespace Leads

variable {r s t : Simulator σ}

theorem aside (config : t.config = s.config) (entries : t.bus.entries = s.bus.entries) :
    s.Leads t where
  config := config
  size := by rw [entries]
  entry _ e found := ⟨e, entries ▸ found, .refl e⟩

theorem refl (s : Simulator σ) : s.Leads s := aside rfl rfl

theorem trans (first : r.Leads s) (second : s.Leads t) : r.Leads t where
  config := second.config.trans first.config
  size := second.size.trans first.size
  entry i e found := by
    obtain ⟨e', between, earlier⟩ := first.entry i e found
    obtain ⟨e'', after, later⟩ := second.entry i e' between
    exact ⟨e'', after, earlier.trans (first.config ▸ later)⟩

/-- One device changes. -/
theorem set {index : Nat} {e : Entry} {d : Device} (config : t.config = s.config)
    (found : s.bus.entries[index]? = some e) (change : e.device.Change s.config.tick d)
    (entries : t.bus.entries = s.bus.entries.setIfInBounds index { e with device := d }) :
    s.Leads t where
  config := config
  size := by rw [entries, Array.size_setIfInBounds]
  entry i e' there := by
    have inside := (Array.getElem?_eq_some_iff.1 found).1
    by_cases same : index = i
    · subst same
      cases found.symm.trans there
      exact ⟨_, by rw [entries, Array.getElem?_setIfInBounds_self_of_lt inside], .change change⟩
    · exact ⟨e', by rw [entries, Array.getElem?_setIfInBounds_ne same, there], .refl e'⟩

/-- All devices change. -/
theorem map {f : Entry → Device} (config : t.config = s.config)
    (entries : t.bus.entries = s.bus.entries.map fun e => { e with device := f e })
    (change : ∀ e : Entry, e.device.Change s.config.tick (f e)) : s.Leads t where
  config := config
  size := by rw [entries, Array.size_map]
  entry i e found := by
    refine ⟨{ e with device := f e }, ?_, .change (change e)⟩
    rw [entries, Array.getElem?_map, found]
    rfl

end Leads

-- ---------------------------------------------------------------------------
-- Calls, handlers and ticks
-- ---------------------------------------------------------------------------

theorem leads_access (s : Simulator σ) (address : UInt64) (size : AccessSize)
    (direction : Direction) (payload : UInt64) :
    s.Leads (s.access address size direction payload).2 := by
  cases resolved : s.bus.map.resolve address with
  | none => exact .aside rfl (by simp only [access, Bus.access, resolved])
  | some place =>
    obtain ⟨index, offset⟩ := place
    cases found : s.bus.entries[index]? with
    | none => exact .aside rfl (by simp only [access, Bus.access, resolved, found])
    | some e =>
      refine .set rfl found (.access s.bus.controller offset size direction payload) ?_
      simp only [access, Bus.access, resolved, found]

theorem leads_raise (s : Simulator σ) (line : UInt32) (wake : Bool) :
    s.Leads (s.raise line wake).2 := by
  simp only [raise]
  split <;> exact .aside rfl rfl

theorem leads_answer (s : Simulator σ) (c : Call σ) : s.Leads (s.answer c).2 := by
  cases c with
  | access address size direction payload => exact s.leads_access address size direction payload
  | request line wake => exact s.leads_raise line wake
  | setEnabled line on => exact .aside rfl rfl
  | ticks | running | memory => exact .refl s
  | update f => exact .aside rfl rfl

theorem leads_isr {α : Type} (s : Simulator σ) (p : Isr σ α) : s.Leads (p.run s).2 := by
  induction p generalizing s with
  | done a => exact .refl s
  | call c next ih => exact (s.leads_answer c).trans (ih _ _)
  | hang => exact .refl s

theorem leads_runHandler (s : Simulator σ) (line : UInt32) (tick : UInt64) :
    s.Leads (s.runHandler line tick) := by
  cases h : s.handler? line with
  | none =>
    rw [runHandler_of_none h]
    exact .refl s
  | some handler =>
    have run := s.leads_isr (handler line tick)
    rw [runHandler_of_some h]
    split
    · exact run.trans (.aside rfl rfl)
    · exact run

theorem leads_dispatchLines (s : Simulator σ) (tick : UInt64) (lines : List UInt32) :
    s.Leads (s.dispatchLines tick lines).2 := by
  induction s, lines using dispatchLines_induction tick with
  | stopped s lines h =>
    rw [dispatchLines_of_stuck h]
    exact .refl s
  | through s h => exact .refl s
  | skip s line rest h unready ih =>
    rw [dispatchLines_skip unready]
    exact ih
  | serve s line rest h ready ih =>
    have consumed : s.Leads (s.consume line) := .aside rfl rfl
    rw [dispatchLines_serve h ready]
    exact (consumed.trans (leads_runHandler _ line tick)).trans ih

/-- The tick moves every device once, by the board's tick. -/
theorem leads_updated (s : Simulator σ) : s.Leads s.updated :=
  .map (by obtain ⟨_, h⟩ := s.updated_eq; rw [h]) s.entries_updated fun _ => .advance

theorem leads_endTick (s : Simulator σ) (tick : UInt64) (served : Nat) :
    s.Leads (s.endTick tick served) := by
  unfold endTick
  split <;> exact .aside rfl rfl

theorem leads_runTick (s : Simulator σ) : s.Leads s.runTick.2 := by
  rw [snd_runTick]
  exact (s.leads_updated.trans (leads_dispatchLines _ _ _)).trans (leads_endTick _ _ _)

-- ---------------------------------------------------------------------------
-- The firmware thread and the stepping loop
-- ---------------------------------------------------------------------------

theorem leads_install {s t : Simulator σ} {line : UInt32} {handler : Handler σ}
    (installed : s.install line handler = .ok t) : s.Leads t := by
  unfold install at installed
  split at installed
  · cases installed
    exact .aside rfl rfl
  · cases installed

theorem leads_task (s : Simulator σ) (p : Task σ Bool) : s.Leads (p.run s).2 := by
  induction p generalizing s with
  | done again => exact .refl s
  | call c next ih =>
    unfold Task.run
    split
    · exact .refl s
    · exact (s.leads_answer c).trans (ih _ _)
  | install line handler next ih =>
    unfold Task.run
    split
    · exact .refl s
    · split
      · next installed => exact (leads_install installed).trans (ih _ _)
      · exact ih _ s
  | wait next ih | delay ticks next ih =>
    unfold Task.run
    split
    · exact ih _ s
    · exact .refl s
  | hang => exact .refl s

theorem leads_runPass (s : Simulator σ) (pass : Task σ Bool) : s.Leads (s.runPass pass).2 := by
  have run := s.leads_task pass
  unfold runPass
  split <;> next ended => rw [ended] at run; exact run

theorem leads_runTask (s : Simulator σ) (task pass : Task σ Bool) :
    s.Leads (s.runTask task pass).2 := by
  have run := s.leads_task task
  unfold runTask
  split
  · next again =>
    rw [again] at run
    exact run.trans (leads_runPass _ pass)
  · next ended => rw [ended] at run; exact run
  · next blocked => rw [blocked] at run; exact run

theorem leads_resumeThread (s : Simulator σ) (thread : Thread σ) :
    s.Leads (s.resumeThread thread).2 := by
  unfold resumeThread
  split
  · split
    · exact s.leads_runTask _ _
    · exact .refl s
  · exact s.leads_runPass _
  · exact .refl s
  · exact .refl s

theorem leads_resume (s : Simulator σ) : s.Leads s.resume := by
  unfold resume
  split
  · exact .refl s
  · next thread _ => exact (s.leads_resumeThread thread).trans (.aside rfl rfl)

theorem leads_stepOnce (s : Simulator σ) : s.Leads s.stepOnce.2 := by
  unfold stepOnce
  split
  · exact .refl s
  · exact s.leads_runTick.trans (leads_resume _)

theorem leads_serve (s : Simulator σ) : s.Leads s.serve := by
  have received : s.Leads { s with signal := none } := .aside rfl rfl
  unfold serve
  split
  · exact received.trans (leads_stepOnce _)
  · exact .refl s

theorem leads_step (s : Simulator σ) : s.Leads s.step.2 := s.leads_stepOnce.trans (leads_serve _)

theorem leads_request (s : Simulator σ) (line : UInt32) : s.Leads (s.request line).2 :=
  (s.leads_raise line true).trans (leads_serve _)

theorem leads_start {s t : Simulator σ} {firmware : Firmware σ}
    (started : s.start firmware = .ok t) : s.Leads t := by
  unfold start at started
  split at started
  · cases started
  · cases started
    have told : s.Leads (({ s with running := true, stopping := false }).notify .started) :=
      .aside rfl rfl
    have spawned := told.trans (leads_runTask _ firmware.setup firmware.pass)
    refine Leads.trans ?_ (leads_serve _)
    exact spawned.trans (.aside rfl rfl)

theorem leads_detach (s : Simulator σ) : s.Leads s.detach := .aside rfl rfl

theorem leads_stop (s : Simulator σ) : s.Leads s.stop.2 := by
  simp only [stop]
  split
  · refine Leads.trans ?_ (leads_detach _)
    refine Leads.trans ?_ (leads_resume _)
    exact .aside rfl rfl
  · refine Leads.trans ?_ (leads_detach _)
    refine Leads.trans ?_ (leads_resume _)
    split <;> exact .aside rfl rfl

-- ---------------------------------------------------------------------------
-- Whole runs
-- ---------------------------------------------------------------------------

end Simulator

/-- What the host can do with a simulator; firmware and handlers act within. -/
inductive HostAction (σ : Type) where
  | call (c : Call σ)
  | step
  | request (line : UInt32)
  | install (line : UInt32) (handler : Handler σ)
  | start (firmware : Firmware σ)
  | stop
  | observe (o : Observer)
  | interrupts (f : InterruptController → InterruptController)
  | serve (index : Nat) (f : Device → Device) (served : ∀ d : Device, d.Served (f d))
  | startTrace
  | takeTrace

namespace Simulator

def perform (s : Simulator σ) : HostAction σ → Simulator σ
  | .call c => if s.stuck && c.usesBus then s else (s.answer c).2
  | .step => s.step.2
  | .request line => (s.request line).2
  | .install line handler => (s.install line handler).toOption.getD s
  | .start firmware => (s.start firmware).toOption.getD s
  | .stop => s.stop.2
  | .observe o => (s.addObserver o).2
  | .interrupts f => { s with bus := { s.bus with controller := f s.bus.controller } }
  | .serve index f _ =>
    match s.bus.entries[index]? with
    | some e =>
      { s with bus := { s.bus with
        entries := s.bus.entries.setIfInBounds index { e with device := f e.device } } }
    | none => s
  | .startTrace => { s with bus := s.bus.startTrace.2 }
  | .takeTrace => { s with bus := s.bus.takeTrace.2 }

def after (s : Simulator σ) (actions : List (HostAction σ)) : Simulator σ :=
  actions.foldl perform s

theorem leads_startTrace (s : Simulator σ) :
    s.Leads { s with bus := s.bus.startTrace.2 } := by
  refine .map (f := fun e => e.device.traced) rfl ?_ fun e => .serve e.device.served_traced
  simp only [Bus.startTrace]
  congr 1
  funext ⟨_, _, _, _, d⟩
  cases d <;> rfl

theorem leads_perform (s : Simulator σ) (action : HostAction σ) : s.Leads (s.perform action) := by
  cases action with
  | call c =>
    simp only [perform]
    split
    · exact .refl s
    · exact s.leads_answer c
  | step => exact s.leads_step
  | request line => exact s.leads_request line
  | install line handler =>
    simp only [perform]
    cases installed : s.install line handler with
    | ok t => exact leads_install installed
    | error e => exact .refl s
  | start firmware =>
    simp only [perform]
    cases started : s.start firmware with
    | ok t => exact leads_start started
    | error e => exact .refl s
  | stop => exact s.leads_stop
  | observe o => exact .aside rfl rfl
  | interrupts f => exact .aside rfl rfl
  | serve index f served =>
    simp only [perform]
    split
    · next e found => exact .set rfl found (.serve (served e.device)) rfl
    · exact .refl s
  | startTrace => exact s.leads_startTrace
  | takeTrace => exact .aside rfl rfl

/-- A run leads from any state to the one after it, whatever is done in it. -/
theorem leads_after (s : Simulator σ) (actions : List (HostAction σ)) :
    s.Leads (s.after actions) := by
  induction actions generalizing s with
  | nil => exact .refl s
  | cons action rest ih => exact (s.leads_perform action).trans (ih _)

end Simulator

end BoardSim
