import BoardSim.Proofs.Can.Run

/-!
# The mode of a CAN controller

`MCR` shows the mode and what firmware asked for, and the two fit in every state that firmware, the
host and time can bring about (`ModeContract`). A write of `MCR` and an entered mode both end in
`showMode`, so it is enough that the requests fit the mode before it (`Requested.showMode`).
-/

namespace BoardSim.Can.Controller

def shows (c : Controller) (bits : UInt32) : Bool := anySet (c.regs.get mcr) bits

theorem shows_showMode (c : Controller) {bits : UInt32} (apart : ~~~Mcr.status &&& bits = bits) :
    c.showMode.shows bits = c.shows bits :=
  anySet_eq_of_config (Alike.showMode c).config apart

theorem shows_showMode_status (c : Controller) {bits : UInt32}
    (within : ~~~Mcr.status &&& bits = 0) :
    c.showMode.shows bits = anySet (Mcr.statusOf c.mode) bits := by
  rw [shows, get_mcr_showMode, anySet_or, not_anySet_and within, Bool.false_or]

-- ---------------------------------------------------------------------------
-- The invariant
-- ---------------------------------------------------------------------------

/-- What firmware asked for in `MCR` fits the mode. -/
structure Requested (c : Controller) : Prop where
  settled : c.mode = .off ∨ c.mode = .init ∨ c.mode = .sleep ∨ c.mode = .idle
  noReset : c.shows Mcr.softrst = false
  off : c.mode = .off → c.shows Mcr.mdis = true
  init : c.mode = .init → c.shows Mcr.mdis = false
  sleep : c.mode = .sleep → c.shows Mcr.mdis = true ∨ c.shows Mcr.halt = false
  idle : c.mode = .idle →
    c.shows Mcr.mdis = false ∧ ¬(c.shows Mcr.frz = true ∧ c.shows Mcr.halt = true)

structure ModeShown (c : Controller) : Prop extends Requested c where
  notReady : c.shows Mcr.notrdy = true ↔ c.mode ≠ .idle
  frozen : c.shows Mcr.frzack = true ↔ c.mode = .init
  lowPower : c.shows Mcr.lpmack = true ↔ c.mode = .off ∨ c.mode = .sleep

theorem Requested.showMode {c : Controller} (h : Requested c) : ModeShown c.showMode where
  settled := h.settled
  noReset := (shows_showMode c (by decide)).trans h.noReset
  off mode := (shows_showMode c (by decide)).trans (h.off mode)
  init mode := (shows_showMode c (by decide)).trans (h.init mode)
  sleep mode := by
    rw [shows_showMode c (by decide), shows_showMode c (by decide)]
    exact h.sleep mode
  idle mode := by
    rw [shows_showMode c (by decide), shows_showMode c (by decide), shows_showMode c (by decide)]
    exact h.idle mode
  notReady := by
    rw [shows_showMode_status c (by decide)]
    show _ ↔ c.mode ≠ .idle
    rcases h.settled with mode | mode | mode | mode <;> rw [mode] <;> decide
  frozen := by
    rw [shows_showMode_status c (by decide)]
    show _ ↔ c.mode = .init
    rcases h.settled with mode | mode | mode | mode <;> rw [mode] <;> decide
  lowPower := by
    rw [shows_showMode_status c (by decide)]
    show _ ↔ c.mode = .off ∨ c.mode = .sleep
    rcases h.settled with mode | mode | mode | mode <;> rw [mode] <;> decide

theorem ModeShown.congr {c d : Controller} (h : ModeShown c) (mode : d.mode = c.mode)
    (config : d.regs.get mcr = c.regs.get mcr) : ModeShown d := by
  have shown (bits : UInt32) : d.shows bits = c.shows bits := by rw [shows, config, shows]
  obtain ⟨⟨settled, noReset, off, init, sleep, idle⟩, notReady, frozen, lowPower⟩ := h
  constructor
  · constructor <;> simpa only [mode, shown]
  all_goals simpa only [mode, shown]

-- ---------------------------------------------------------------------------
-- Writes of MCR
-- ---------------------------------------------------------------------------

theorem requestedMode_cases {mode : Mode}
    (settled : mode = .off ∨ mode = .init ∨ mode = .sleep ∨ mode = .idle) (word : UInt32) :
    anySet word Mcr.mdis = true ∧
        (requestedMode mode word = .off ∨ requestedMode mode word = .sleep) ∨
      anySet word Mcr.mdis = false ∧
        (requestedMode mode word = .init ∨
          requestedMode mode word = .sleep ∧ anySet word Mcr.halt = false ∨
          requestedMode mode word = .idle ∧
            ¬(anySet word Mcr.frz = true ∧ anySet word Mcr.halt = true)) := by
  unfold requestedMode
  split
  · next disabled =>
    refine .inl ⟨disabled, ?_⟩
    rcases settled with rfl | rfl | rfl | rfl <;> simp
  · next enabled =>
    refine .inr ⟨Bool.eq_false_iff.2 enabled, ?_⟩
    rcases settled with rfl | rfl | rfl | rfl
    · exact .inl rfl
    · exact .inl rfl
    · cases halt : anySet word Mcr.halt <;> simp
    · cases halt : anySet word Mcr.halt <;> cases frz : anySet word Mcr.frz <;> simp

theorem modeShown_configure {c : Controller} (word : UInt32)
    (settled : c.mode = .off ∨ c.mode = .init ∨ c.mode = .sleep ∨ c.mode = .idle) :
    ModeShown (c.configure word) := by
  obtain ⟨regs, written, noReset, asked, -⟩ := configure_cases c word
  rw [written]
  refine Requested.showMode ?_
  have mdis : anySet (regs.get mcr) Mcr.mdis = _ := asked _ (by decide) (by decide)
  have frz : anySet (regs.get mcr) Mcr.frz = _ := asked _ (by decide) (by decide)
  have halt : anySet (regs.get mcr) Mcr.halt = _ := asked _ (by decide) (by decide)
  have cases := requestedMode_cases settled word
  rw [← mdis, ← frz, ← halt] at cases
  -- each outcome decides the clause of its own mode and voids the others
  rcases cases with ⟨mdis, off | sleep⟩ | ⟨mdis, init | ⟨sleep, halt⟩ | ⟨idle, notBoth⟩⟩
  · constructor <;> simp [shows, noReset, mdis, off]
  · constructor <;> simp [shows, noReset, mdis, sleep]
  · constructor <;> simp [shows, noReset, mdis, init]
  · constructor <;> simp [shows, noReset, mdis, sleep, halt]
  · constructor <;> simp [shows, noReset, mdis, idle, notBoth]

theorem kept_modeShown : Peripheral.Kept ModeShown := by
  refine kept_of_commit fun c i word h => ?_
  unfold commit
  split
  · exact modeShown_configure word h.settled
  · next other => exact h.congr rfl (RegisterFile.get_set_ne _ other _)

-- ---------------------------------------------------------------------------
-- Time
-- ---------------------------------------------------------------------------

theorem ModeShown.enter_idle {c d : Controller} (h : ModeShown c) (kept : Handled c.regs d.regs)
    (enabled : c.shows Mcr.mdis = false)
    (notBoth : ¬(c.shows Mcr.frz = true ∧ c.shows Mcr.halt = true)) :
    ModeShown (d.enter .idle) := by
  have same {bits : UInt32} (apart : ~~~Mcr.status &&& bits = bits) : d.shows bits = c.shows bits :=
    anySet_eq_of_config kept.config apart
  refine Requested.showMode ⟨.inr (.inr (.inr rfl)), ?_, nofun, nofun, nofun, fun _ => ⟨?_, ?_⟩⟩
  · exact (same (by decide)).trans h.noReset
  · exact (same (by decide)).trans enabled
  · show ¬(d.shows Mcr.frz = true ∧ d.shows Mcr.halt = true)
    rwa [same (by decide), same (by decide)]

theorem ModeShown.idle_of_running {c : Controller} (h : ModeShown c) (running : c.Running) :
    c.mode = .idle := by
  have settled := h.settled
  rcases running with idle | rx | tx
  · exact idle
  · simp [rx] at settled
  · simp [tx] at settled

theorem free_iff (c : Controller) :
    anySet (c.regs.get mcr) (Mcr.mdis ||| Mcr.halt) = false ↔
      c.shows Mcr.mdis = false ∧ c.shows Mcr.halt = false := by
  rw [anySet_or_bits, Bool.or_eq_false_iff]
  rfl

theorem ModeShown.advanced {c d : Controller} {nanos : Nat} (h : ModeShown c)
    (step : Advanced c nanos d) : ModeShown d := by
  have ticked : ModeShown (c.ticked nanos) := h.congr rfl (c.get_mcr_ticked nanos)
  cases step with
  | discards off =>
    rw [discardAll_eq]
    exact ticked.congr rfl rfl
  | stays mode held => exact ticked
  | wakes mode free =>
    obtain ⟨enabled, moving⟩ := c.free_iff.1 free
    -- without HALT the request to freeze has no effect
    exact h.enter_idle (Alike.ticked c nanos).handled enabled (by simp [moving])
  | receives running arrived arrival handled =>
    obtain ⟨enabled, notBoth⟩ := h.idle (h.idle_of_running running)
    exact h.enter_idle handled enabled notBoth
  | sends running empty armed handled disarmed =>
    obtain ⟨enabled, notBoth⟩ := h.idle (h.idle_of_running running)
    exact h.enter_idle handled enabled notBoth
  | waits running empty unarmed => exact ticked

theorem ModeShown.act {c : Controller} (h : ModeShown c) (a : Action) : ModeShown (c.act a) := by
  cases a with
  | access offset size direction payload =>
    exact kept_modeShown.access h offset size direction payload
  | advance nanos => exact h.advanced (c.advance_cases nanos)
  | inject frame => exact h.congr rfl rfl
  | collect => exact h.congr rfl rfl
  | collectAll => exact h.congr rfl rfl

theorem modeShown_new (bus : UInt8) (tracing : Bool) : ModeShown { bus, tracing } := by
  have reset : (RegisterFile.reset layout).get mcr = Mcr.atReset := by decide +kernel
  constructor
  · constructor <;> simp [shows, reset] <;> decide
  all_goals
    simp [shows, reset]
    decide

-- ---------------------------------------------------------------------------
-- Changes of the mode
-- ---------------------------------------------------------------------------

theorem Advanced.transitions {c d : Controller} {nanos : Nat} (step : Advanced c nanos d) :
    d.transitions = [] ∨ d.transitions = [.idle] ∨ d.transitions = [.rx, .idle] ∨
      d.transitions = [.tx, .idle] := by
  cases step with
  | discards off =>
    rw [discardAll_eq]
    exact .inl rfl
  | stays _ _ => exact .inl rfl
  | waits _ _ _ => exact .inl rfl
  | wakes _ _ => exact .inr (.inl rfl)
  | receives _ _ _ _ => exact .inr (.inr (.inl rfl))
  | sends _ _ _ _ _ => exact .inr (.inr (.inr rfl))

/-- A write of `MCR` turns no controller off and sets none running. -/
theorem requestedMode_ne (mode : Mode) (word : UInt32) :
    (mode ≠ .off → requestedMode mode word ≠ .off) ∧
      (mode ≠ .idle → requestedMode mode word ≠ .idle) := by
  unfold requestedMode
  cases mode <;> grind

theorem mode_commit (c : Controller) (i : Nat) (word : UInt32) :
    (c.commit i word).mode = c.mode ∨ (c.commit i word).mode = requestedMode c.mode word := by
  unfold commit
  split
  · obtain ⟨regs, written, -⟩ := configure_cases c word
    rw [written]
    exact .inr rfl
  · exact .inl rfl

theorem kept_mode_ne_off : Peripheral.Kept fun c : Controller => c.mode ≠ .off := by
  refine kept_of_commit fun c i word on => ?_
  rcases mode_commit c i word with same | asked
  · rwa [same]
  · rw [asked]
    exact (requestedMode_ne c.mode word).1 on

theorem kept_mode_ne_idle : Peripheral.Kept fun c : Controller => c.mode ≠ .idle := by
  refine kept_of_commit fun c i word waiting => ?_
  rcases mode_commit c i word with same | asked
  · rwa [same]
  · rw [asked]
    exact (requestedMode_ne c.mode word).2 waiting

theorem Advanced.mode_ne_off {c d : Controller} {nanos : Nat} (on : c.mode ≠ .off)
    (step : Advanced c nanos d) : d.mode ≠ .off := by
  cases step with
  | discards off => exact absurd off on
  | stays _ _ => exact on
  | waits _ _ _ => exact on
  | wakes _ _ => exact nofun
  | receives _ _ _ _ => exact nofun
  | sends _ _ _ _ _ => exact nofun

theorem mode_act_ne_off {c : Controller} (on : c.mode ≠ .off) (a : Action) :
    (c.act a).mode ≠ .off := by
  cases a with
  | access offset size direction payload =>
    exact kept_mode_ne_off.access on offset size direction payload
  | advance nanos => exact (c.advance_cases nanos).mode_ne_off on
  | _ => exact on

/-- Only a step of time sets a controller running: one that is not disabled or halted. -/
theorem ModeShown.advanced_idle {c d : Controller} {nanos : Nat} (h : ModeShown c)
    (waiting : c.mode ≠ .idle) (running : d.mode = .idle)
    (step : Advanced c nanos d) :
    (c.mode = .init ∨ c.mode = .sleep) ∧ c.shows Mcr.mdis = false ∧ c.shows Mcr.halt = false := by
  cases step with
  | discards off =>
    rw [discardAll_eq] at running
    exact absurd running waiting
  | stays _ _ => exact absurd running waiting
  | wakes mode free => exact ⟨mode, c.free_iff.1 free⟩
  | receives moving _ _ _ => exact absurd (h.idle_of_running moving) waiting
  | sends moving _ _ _ _ => exact absurd (h.idle_of_running moving) waiting
  | waits moving _ _ => exact absurd (h.idle_of_running moving) waiting

structure ModeContract (c : Controller) : Prop extends ModeShown c where
  neverOff : c.mode ≠ .off → ∀ actions, (c.after actions).mode ≠ .off
  started : ∀ a, c.mode ≠ .idle → (c.act a).mode = .idle →
    (∃ nanos, a = .advance nanos) ∧ (c.mode = .init ∨ c.mode = .sleep) ∧
      c.shows Mcr.mdis = false ∧ c.shows Mcr.halt = false
  passed : ∀ nanos, (c.advance nanos).1.transitions ∈
    [[], [Mode.idle], [Mode.rx, Mode.idle], [Mode.tx, Mode.idle]]

theorem ModeShown.modeContract {c : Controller} (h : ModeShown c) : ModeContract c where
  toModeShown := h
  neverOff on actions :=
    after_induction (P := fun c => c.mode ≠ .off) on (fun _ a on => mode_act_ne_off on a) actions
  started a waiting running := by
    cases a with
    | access offset size direction payload =>
      exact absurd running (kept_mode_ne_idle.access waiting offset size direction payload)
    | advance nanos =>
      exact ⟨⟨nanos, rfl⟩, h.advanced_idle waiting running (c.advance_cases nanos)⟩
    | _ => exact absurd running waiting
  passed nanos := by simpa using (c.advance_cases nanos).transitions

theorem modeContract_after (bus : UInt8) (tracing : Bool) (actions : List Action) :
    ModeContract (({ bus, tracing } : Controller).after actions) :=
  (after_induction (modeShown_new bus tracing) (fun _ a h => h.act a) actions).modeContract

end BoardSim.Can.Controller
