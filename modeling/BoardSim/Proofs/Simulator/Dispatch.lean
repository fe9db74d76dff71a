import BoardSim.Proofs.Simulator.Serving

/-!
# Dispatching the lines of a tick

`dispatchLines` goes through the lines that were ready when the tick's requests had been latched.
`dispatchLines_induction` follows its four cases; every other fact here comes from it.
`runTick_dispatchContract` says what one tick promises.
-/

namespace BoardSim.Simulator

variable {σ : Type}

-- ---------------------------------------------------------------------------
-- Lists of lines
-- ---------------------------------------------------------------------------

theorem dispatchLines_of_stuck {s : Simulator σ} (h : s.stuck = true) (tick : UInt64)
    (lines : List UInt32) : s.dispatchLines tick lines = ([], s) := by
  cases lines <;> simp [dispatchLines, h]

theorem dispatchLines_skip {s : Simulator σ} {line : UInt32}
    (unready : s.bus.controller.isReady line = false) (tick : UInt64) (rest : List UInt32) :
    s.dispatchLines tick (line :: rest) = s.dispatchLines tick rest := by
  cases h : s.stuck with
  | true => rw [dispatchLines_of_stuck h, dispatchLines_of_stuck h]
  | false => simp [dispatchLines, h, dispatchLine_of_not_ready unready]

theorem dispatchLines_serve {s : Simulator σ} {line : UInt32} (h : s.stuck = false)
    (ready : s.bus.controller.isReady line = true) (tick : UInt64) (rest : List UInt32) :
    s.dispatchLines tick (line :: rest) =
      (line :: (((s.consume line).runHandler line tick).dispatchLines tick rest).1,
        (((s.consume line).runHandler line tick).dispatchLines tick rest).2) := by
  simp [dispatchLines, h, dispatchLine_of_ready ready]

/-- A dispatch has been stopped by a handler, is through, passes a line over or serves it. -/
theorem dispatchLines_induction {motive : Simulator σ → List UInt32 → Prop} (tick : UInt64)
    (stopped : ∀ s lines, s.stuck = true → motive s lines)
    (through : ∀ s, s.stuck = false → motive s [])
    (skip : ∀ s line rest, s.stuck = false → s.bus.controller.isReady line = false →
      motive s rest → motive s (line :: rest))
    (serve : ∀ s line rest, s.stuck = false → s.bus.controller.isReady line = true →
      motive ((s.consume line).runHandler line tick) rest → motive s (line :: rest))
    (s : Simulator σ) (lines : List UInt32) : motive s lines := by
  induction lines generalizing s with
  | nil =>
    cases h : s.stuck with
    | true => exact stopped s [] h
    | false => exact through s h
  | cons line rest ih =>
    cases h : s.stuck with
    | true => exact stopped s _ h
    | false =>
      cases r : s.bus.controller.isReady line with
      | true => exact serve s line rest h r (ih _)
      | false => exact skip s line rest h r (ih s)

def dispatchEvents (s : Simulator σ) (tick : UInt64) : List UInt32 → List InterruptEvent
  | [] => []
  | line :: rest =>
    if s.stuck then []
    else if s.bus.controller.isReady line then
      .dispatch line :: (s.consume line).handlerEvents line tick ++
        ((s.consume line).runHandler line tick).dispatchEvents tick rest
    else s.dispatchEvents tick rest

theorem dispatchEvents_of_stuck {s : Simulator σ} (h : s.stuck = true) (tick : UInt64)
    (lines : List UInt32) : s.dispatchEvents tick lines = [] := by
  cases lines <;> simp [dispatchEvents, h]

theorem dispatchEvents_skip {s : Simulator σ} {line : UInt32} (h : s.stuck = false)
    (unready : s.bus.controller.isReady line = false) (tick : UInt64) (rest : List UInt32) :
    s.dispatchEvents tick (line :: rest) = s.dispatchEvents tick rest := by
  simp [dispatchEvents, h, unready]

theorem dispatchEvents_serve {s : Simulator σ} {line : UInt32} (h : s.stuck = false)
    (ready : s.bus.controller.isReady line = true) (tick : UInt64) (rest : List UInt32) :
    s.dispatchEvents tick (line :: rest) =
      .dispatch line :: (s.consume line).handlerEvents line tick ++
        ((s.consume line).runHandler line tick).dispatchEvents tick rest := by
  simp [dispatchEvents, h, ready]

theorem dispatchLines_append (s : Simulator σ) (tick : UInt64) (a b : List UInt32) :
    s.dispatchLines tick (a ++ b) =
      ((s.dispatchLines tick a).1 ++ ((s.dispatchLines tick a).2.dispatchLines tick b).1,
        ((s.dispatchLines tick a).2.dispatchLines tick b).2) := by
  induction s, a using dispatchLines_induction tick with
  | stopped s lines h => simp [dispatchLines_of_stuck h]
  | through s h => rfl
  | skip s line rest h unready ih =>
    rw [List.cons_append, dispatchLines_skip unready, dispatchLines_skip unready, ih]
  | serve s line rest h ready ih =>
    rw [List.cons_append, dispatchLines_serve h ready, dispatchLines_serve h ready, ih,
      List.cons_append]

theorem dispatchEvents_append (s : Simulator σ) (tick : UInt64) (a b : List UInt32) :
    s.dispatchEvents tick (a ++ b) =
      s.dispatchEvents tick a ++ (s.dispatchLines tick a).2.dispatchEvents tick b := by
  induction s, a using dispatchLines_induction tick with
  | stopped s lines h => simp [dispatchEvents_of_stuck h, dispatchLines_of_stuck h]
  | through s h => rfl
  | skip s line rest h unready ih =>
    rw [List.cons_append, dispatchEvents_skip h unready, dispatchEvents_skip h unready,
      dispatchLines_skip unready, ih]
  | serve s line rest h ready ih =>
    rw [List.cons_append, dispatchEvents_serve h ready, dispatchEvents_serve h ready,
      dispatchLines_serve h ready, ih, List.append_assoc]

theorem sublist_dispatchLines (s : Simulator σ) (tick : UInt64) (lines : List UInt32) :
    (s.dispatchLines tick lines).1.Sublist lines := by
  induction s, lines using dispatchLines_induction tick with
  | stopped s lines h =>
    rw [dispatchLines_of_stuck h]
    exact List.nil_sublist _
  | through s h => exact .slnil
  | skip s line rest h unready ih =>
    rw [dispatchLines_skip unready]
    exact ih.cons line
  | serve s line rest h ready ih =>
    rw [dispatchLines_serve h ready]
    exact ih.cons_cons line

theorem controller_dispatchLines (s : Simulator σ) (tick : UInt64) (lines : List UInt32) :
    (s.dispatchLines tick lines).2.bus.controller =
      s.bus.controller.after (s.dispatchEvents tick lines) := by
  induction s, lines using dispatchLines_induction tick with
  | stopped s lines h => rw [dispatchLines_of_stuck h, dispatchEvents_of_stuck h]; rfl
  | through s h => rfl
  | skip s line rest h unready ih =>
    rw [dispatchLines_skip unready, dispatchEvents_skip h unready, ih]
  | serve s line rest h ready ih =>
    rw [dispatchLines_serve h ready, dispatchEvents_serve h ready, ih, controller_runHandler,
      InterruptController.after_append]
    rfl

theorem filterMap_served?_dispatchEvents (s : Simulator σ) (tick : UInt64)
    (lines : List UInt32) :
    (s.dispatchEvents tick lines).filterMap InterruptEvent.served? =
      (s.dispatchLines tick lines).1 := by
  induction s, lines using dispatchLines_induction tick with
  | stopped s lines h => rw [dispatchLines_of_stuck h, dispatchEvents_of_stuck h]; rfl
  | through s h => rfl
  | skip s line rest h unready ih =>
    rw [dispatchLines_skip unready, dispatchEvents_skip h unready, ih]
  | serve s line rest h ready ih =>
    have quiet : ((s.consume line).handlerEvents line tick).filterMap InterruptEvent.served? = [] :=
      List.filterMap_eq_nil_iff.2 fun e he => served?_of_mem_handlerEvents he
    have first : (InterruptEvent.dispatch line).served? = some line := rfl
    rw [dispatchLines_serve h ready, dispatchEvents_serve h ready, List.cons_append,
      List.filterMap_cons_some first, List.filterMap_append, quiet, ih, List.nil_append]

theorem admits_dispatchEvents (s : Simulator σ) (tick : UInt64) (lines : List UInt32) :
    s.bus.controller.Admits (s.dispatchEvents tick lines) := by
  induction s, lines using dispatchLines_induction tick with
  | stopped s lines h => rw [dispatchEvents_of_stuck h]; trivial
  | through s h => trivial
  | skip s line rest h unready ih => rw [dispatchEvents_skip h unready]; exact ih
  | serve s line rest h ready ih =>
    rw [dispatchEvents_serve h ready]
    refine ⟨fun other served => ?_, InterruptController.admits_append.2 ⟨?_, ?_⟩⟩
    · cases served; exact ready
    · exact InterruptController.admits_of_forall_served? fun e he => served?_of_mem_handlerEvents he
    · rw [controller_runHandler] at ih
      exact ih

/-- After the dispatch every served line has been consumed and its handler run, in order. -/
theorem snd_dispatchLines (s : Simulator σ) (tick : UInt64) (lines : List UInt32) :
    (s.dispatchLines tick lines).2 =
      (s.dispatchLines tick lines).1.foldl
        (fun s line => (s.consume line).runHandler line tick) s := by
  induction s, lines using dispatchLines_induction tick with
  | stopped s lines h => rw [dispatchLines_of_stuck h]; rfl
  | through s h => rfl
  | skip s line rest h unready ih => rw [dispatchLines_skip unready, ih]
  | serve s line rest h ready ih => rw [dispatchLines_serve h ready, List.foldl_cons, ih]

theorem stuck_dispatchLines_of_stuck {s : Simulator σ} (h : s.stuck = true) (tick : UInt64)
    (lines : List UInt32) : (s.dispatchLines tick lines).2.stuck = true := by
  rw [dispatchLines_of_stuck h, h]

theorem sameTables_dispatchLines (s : Simulator σ) (tick : UInt64) (lines : List UInt32) :
    s.SameTables (s.dispatchLines tick lines).2 := by
  induction s, lines using dispatchLines_induction tick with
  | stopped s lines h => rw [dispatchLines_of_stuck h]; exact .refl s
  | through s h => exact .refl s
  | skip s line rest h unready ih => rw [dispatchLines_skip unready]; exact ih
  | serve s line rest h ready ih =>
    rw [dispatchLines_serve h ready]
    have run := sameTables_runHandler (s.consume line) line tick
    exact .trans ⟨run.handlers, run.tick⟩ ih

end BoardSim.Simulator
