import BoardSim.Proofs.Can.Buffers
import BoardSim.Proofs.Peripheral.Bits

/-!
# Runs of a CAN controller

Firmware, the host and simulated time act on a controller in any order. `configure_cases` says what
a write of `MCR` does to it, and `advance_cases` names the six things that a step of time can do.
-/

namespace BoardSim.Can

inductive Action where
  | access (offset : UInt64) (size : AccessSize) (direction : Direction) (payload : UInt64)
  | advance (nanos : Nat)
  | inject (frame : Frame)
  | collect
  | collectAll
deriving DecidableEq

namespace Controller

def act (c : Controller) : Action → Controller
  | .access offset size direction payload => (Peripheral.access c offset size direction payload).2
  | .advance nanos => (c.advance nanos).1
  | .inject frame => c.inject frame
  | .collect => c.collect.2
  | .collectAll => c.collectAll.2

def after (c : Controller) (actions : List Action) : Controller := actions.foldl act c

@[simp] theorem after_cons (c : Controller) (a : Action) (actions : List Action) :
    c.after (a :: actions) = (c.act a).after actions := rfl

theorem after_induction {c : Controller} {P : Controller → Prop} (start : P c)
    (step : ∀ d a, P d → P (d.act a)) (actions : List Action) : P (c.after actions) :=
  List.foldlRecOn actions act start fun d h a _ => step d a h

-- ---------------------------------------------------------------------------
-- A write of MCR
-- ---------------------------------------------------------------------------

theorem get_softReset (c : Controller) {i : Nat} (later : iflag1 < i) :
    c.softReset.regs.get i = c.regs.get i := by
  have restarted (file : RegisterFile layout) {j : Nat} (control : j ≤ iflag1) :
      (file.restart j).get i = file.get i :=
    RegisterFile.get_set_ne _ (Nat.ne_of_lt (Nat.lt_of_le_of_lt control later)) _
  unfold softReset
  simp only [List.foldl_cons, List.foldl_nil]
  rw [restarted _ (by decide), restarted _ (by decide), restarted _ (by decide),
    restarted _ (by decide), restarted _ (by decide)]

theorem configure_eq (c : Controller) (word : UInt32) :
    let start := if anySet word Mcr.softrst then c.softReset.regs else c.regs
    c.configure word = ({ c with
      regs := start.set mcr
        ((word &&& ~~~Mcr.status &&& ~~~Mcr.softrst) ||| (start.get mcr &&& Mcr.status))
      mode := requestedMode c.mode word }).showMode := by
  have softReset : c.softReset = { c with regs := c.softReset.regs } := by
    unfold Controller.softReset
    rfl
  unfold configure
  split
  · rw [softReset]
  · rfl

/-- A write of `MCR` leaves firmware's bits as they were written and the mode they ask for, and no
register after the control registers changes. -/
theorem configure_cases (c : Controller) (word : UInt32) :
    ∃ regs, c.configure word = ({ c with regs, mode := requestedMode c.mode word }).showMode ∧
      anySet (regs.get mcr) Mcr.softrst = false ∧
      (∀ bits, ~~~Mcr.status &&& bits = bits → ~~~Mcr.softrst &&& bits = bits →
        anySet (regs.get mcr) bits = anySet word bits) ∧
      ∀ i, iflag1 < i → regs.get i = c.regs.get i := by
  have inside : mcr < layout.length := by
    rw [length_layout]
    decide
  refine ⟨_, configure_eq c word, ?_, fun bits ours notReset => ?_, fun i later => ?_⟩
  · rw [RegisterFile.get_set _ inside, anySet_or, not_anySet_and (by decide),
      not_anySet_and (by decide), Bool.or_false]
  · have status : Mcr.status &&& bits = 0 := by
      rw [← ours, ← UInt32.and_assoc, UInt32.and_not_self, UInt32.zero_and]
    rw [RegisterFile.get_set _ inside, anySet_or, not_anySet_and status, anySet_and notReset,
      anySet_and ours, Bool.or_false]
  · rw [RegisterFile.get_set_ne _ (Nat.ne_of_lt (Nat.zero_lt_of_lt later))]
    split
    · exact c.get_softReset later
    · rfl

-- ---------------------------------------------------------------------------
-- A step of time
-- ---------------------------------------------------------------------------

theorem discardAll_eq (c : Controller) :
    c.discardAll = { c with
      inbox := []
      trace := if c.tracing then
        c.trace ++ (c.inbox.map fun frame => ⟨c.bus, .dropped, frame, none⟩).toArray
      else c.trace } := by
  have dropped (frames : List Frame) (c : Controller) :
      frames.foldl (fun c frame => c.record .dropped frame none) c = { c with
        trace := if c.tracing then
          c.trace ++ (frames.map fun frame => ⟨c.bus, .dropped, frame, none⟩).toArray
        else c.trace } := by
    induction frames generalizing c with
    | nil => simp
    | cons frame rest ih =>
      rw [List.foldl_cons, ih, record_eq, traced]
      cases c.tracing <;> simp
  rw [discardAll, dropped]

def Running (c : Controller) : Prop := c.mode = .idle ∨ c.mode = .rx ∨ c.mode = .tx

inductive Advanced (c : Controller) (nanos : Nat) : Controller → Prop where
  | discards (off : c.mode = .off) : Advanced c nanos (c.ticked nanos).discardAll
  | stays (mode : c.mode = .init ∨ c.mode = .sleep)
      (held : anySet (c.regs.get mcr) (Mcr.mdis ||| Mcr.halt) = true) :
      Advanced c nanos (c.ticked nanos)
  | wakes (mode : c.mode = .init ∨ c.mode = .sleep)
      (free : anySet (c.regs.get mcr) (Mcr.mdis ||| Mcr.halt) = false) :
      Advanced c nanos ((c.ticked nanos).enter .idle)
  | receives (running : c.Running) {frame : Frame} {inbox : List Frame}
      {regs : RegisterFile layout} {event : TraceEvent} (arrived : c.inbox = frame :: inbox)
      (arrival : Arrival c frame event) (handled : Handled c.regs regs) :
      Advanced c nanos (({ (c.ticked nanos).enter .rx with
        inbox, regs, trace := c.traced event }).enter .idle)
  | sends (running : c.Running) {n : Nat} {regs : RegisterFile layout} (empty : c.inbox = [])
      (armed : c.armedBuffer? = some n) (handled : Handled c.regs regs)
      (disarmed : armedIn regs n = false) :
      Advanced c nanos (({ (c.ticked nanos).enter .tx with
        regs
        outbox := c.outbox ++ [c.frameOf n]
        trace := c.traced ⟨c.bus, .tx, c.frameOf n, some (UInt8.ofNat n)⟩ }).enter .idle)
  | waits (running : c.Running) (empty : c.inbox = []) (unarmed : c.armedBuffer? = none) :
      Advanced c nanos (c.ticked nanos)

theorem exchange_cases {c : Controller} (running : c.Running) (nanos : Nat) :
    Advanced c nanos (c.ticked nanos).exchange.1 := by
  have ticked := Alike.ticked c nanos
  have entered (mode : Mode) : Alike c ((c.ticked nanos).enter mode) :=
    ticked.trans (Alike.enter _ mode)
  have inbox : (c.ticked nanos).inbox = c.inbox := rfl
  unfold exchange
  split
  · next frame rest arrived =>
    obtain ⟨regs, event, received, arrival, handled⟩ :=
      receive_cases (({ c.ticked nanos with inbox := rest }).enter .rx) frame
    -- the buffer is chosen with the registers that the step found
    have same : Alike c (({ c.ticked nanos with inbox := rest }).enter .rx) := by
      obtain ⟨bus, config, word⟩ := entered .rx
      exact ⟨bus, config, word⟩
    simp only [received]
    exact .receives running (inbox ▸ arrived) (arrival.of_alike same) (same.handled.trans handled)
  · next empty =>
    split
    · next unarmed => exact .waits running (inbox ▸ empty) (ticked.armedBuffer? ▸ unarmed)
    · next n found =>
      have armed : c.armedBuffer? = some n := ticked.armedBuffer? ▸ found
      have inside := (mem_scanned.1 (armedBuffer?_eq_some armed).1).2
      obtain ⟨regs, sent, handled, disarmed⟩ :=
        transmit_cases ((c.ticked nanos).enter .tx) inside
      rw [(entered .tx).frameOf] at sent
      simp only [sent]
      exact .sends running (inbox ▸ empty) armed ((entered .tx).handled.trans handled) disarmed

theorem advance_eq (c : Controller) (nanos : Nat) :
    c.advance nanos = match c.mode with
      | .off => ((c.ticked nanos).discardAll, .quiet)
      | .init | .sleep =>
        (if anySet ((c.ticked nanos).regs.get mcr) (Mcr.mdis ||| Mcr.halt) then c.ticked nanos
          else (c.ticked nanos).enter .idle, .quiet)
      | .idle | .rx | .tx => (c.ticked nanos).exchange := rfl

theorem get_mcr_ticked (c : Controller) (nanos : Nat) :
    (c.ticked nanos).regs.get mcr = c.regs.get mcr :=
  RegisterFile.get_set_ne _ (by decide) _

theorem advance_cases (c : Controller) (nanos : Nat) : Advanced c nanos (c.advance nanos).1 := by
  have held (mode : c.mode = .init ∨ c.mode = .sleep) : Advanced c nanos
      (if anySet (c.regs.get mcr) (Mcr.mdis ||| Mcr.halt) then c.ticked nanos
      else (c.ticked nanos).enter .idle) := by
    split
    · next held => exact .stays mode held
    · next free => exact .wakes mode (Bool.eq_false_iff.2 free)
  rw [advance_eq, get_mcr_ticked]
  split
  · next off => exact .discards off
  · next init => exact held (.inl init)
  · next sleep => exact held (.inr sleep)
  · next idle => exact exchange_cases (.inl idle) nanos
  · next rx => exact exchange_cases (.inr (.inl rx)) nanos
  · next tx => exact exchange_cases (.inr (.inr tx)) nanos

theorem Advanced.handled {c d : Controller} {nanos : Nat} (step : Advanced c nanos d) :
    Handled c.regs d.regs := by
  have ticked := (Alike.ticked c nanos).handled
  cases step with
  | discards off =>
    rw [discardAll_eq]
    exact ticked
  | stays _ _ => exact ticked
  | waits _ _ _ => exact ticked
  | wakes _ _ => exact ticked.enter .idle
  | receives _ _ _ handled => exact Handled.enter handled .idle
  | sends _ _ _ handled _ => exact Handled.enter handled .idle

end Controller

end BoardSim.Can
