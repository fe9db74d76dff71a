import BoardSim.Peripheral.Uart
import BoardSim.Proofs.Peripheral.Bits
import BoardSim.Proofs.Peripheral.Operation

/-!
# The byte streams of a UART

The host sends bytes, simulated time passes and firmware accesses the registers, in any order. No
received byte is lost, doubled or overtaken on its way to `DR`, and a byte in `DR` stays there until
`RXNE` has been cleared; what firmware writes to `DR` goes to the sink, in order (`StreamContract`).
An access is taken apart into its register operations: `Performed` is what one of them does, and
`Updated` what a step of time does.
-/

namespace BoardSim.Uart

open Peripheral (Operation perform)

inductive Action where
  | send (bytes : List UInt8)
  | advance (nanos : Nat)
  | access (offset : UInt64) (size : AccessSize) (direction : Direction) (payload : UInt64)
deriving DecidableEq

def act (u : Uart) : Action → Uart
  | .send bytes => u.send bytes
  | .advance nanos => (u.advance nanos).1
  | .access offset size direction payload => (Peripheral.access u offset size direction payload).2

def after (u : Uart) (actions : List Action) : Uart := actions.foldl act u

def fresh : Uart := ({} : Uart).attachSink

def full (u : Uart) : Bool := anySet (u.regs.get sr) rxne

-- ---------------------------------------------------------------------------
-- What can be seen of a run
-- ---------------------------------------------------------------------------

/-- What `f` sees of each action in a run, in order. -/
def along {α : Type} (f : Uart → Action → List α) (u : Uart) : List Action → List α
  | [] => []
  | a :: rest => f u a ++ along f (u.act a) rest

def sentBy : Action → List UInt8
  | .send bytes => bytes
  | _ => []

/-- The byte that a step of time has loaded: `RXNE` is set and was clear before. -/
def loadedBy (u : Uart) : Action → List UInt8
  | .advance nanos =>
    if !u.full && (u.advance nanos).1.full then [((u.advance nanos).1.regs.get dr).toUInt8] else []
  | _ => []

def operationsOf (u : Uart) : Action → List Operation
  | .access offset size direction payload => Peripheral.operations u offset size direction payload
  | _ => []

def sends : Operation → Option UInt8
  | .write i word => if i = dr then some word.toUInt8 else none
  | .read _ => none

def sentToSink (u : Uart) (a : Action) : List UInt8 := (u.operationsOf a).filterMap sends

def clears : Operation → Bool
  | .read i => i == dr
  | .write i word => i == sr && !anySet word rxne

-- ---------------------------------------------------------------------------
-- One register operation
-- ---------------------------------------------------------------------------

theorem settle_eq (u : Uart) (i : Nat) : Peripheral.settle u i = u :=
  Peripheral.settle_of_keep (by decide : ∀ r ∈ layout, r.onRead = .keep) i

theorem anySet_store_sr (r : RegisterFile layout) (word : UInt32) :
    anySet ((r.store sr word).get sr) rxne = (anySet (r.get sr) rxne && anySet word rxne) ∧
      (anySet (r.get sr) txe = true → anySet ((r.store sr word).get sr) txe = true) := by
  refine ⟨r.anySet_store_clearZeros (i := sr) (k := 5) (by decide) rfl (by decide) (by decide)
    (by decide) word, fun ready => ?_⟩
  have stored : (r.store sr word).get sr =
      (r.get sr &&& ~~~(rxne ||| tc)) ||| ((r.get sr &&& word) &&& (rxne ||| tc)) :=
    r.get_store (by decide) word
  rw [stored, anySet_or, anySet_and (by decide), ready]
  rfl

structure Performed (u v : Uart) (operations : List Operation) : Prop where
  queue : v.queue = u.queue
  wire : v.wire = u.wire
  received : v.regs.get dr = u.regs.get dr
  full : v.full = (u.full && operations.all (!clears ·))
  ready : anySet (u.regs.get sr) txe = true → anySet (v.regs.get sr) txe = true
  sink : v.sink = u.sink.map (· ++ (operations.filterMap sends).toArray)

namespace Performed

variable {u v w : Uart} {first last : List Operation}

theorem refl (u : Uart) : Performed u u [] where
  queue := rfl
  wire := rfl
  received := rfl
  full := by simp
  ready := id
  sink := by cases u.sink <;> simp

theorem trans (h : Performed u v first) (h' : Performed v w last) :
    Performed u w (first ++ last) where
  queue := h'.queue.trans h.queue
  wire := h'.wire.trans h.wire
  received := h'.received.trans h.received
  full := by rw [h'.full, h.full, List.all_append, Bool.and_assoc]
  ready := h'.ready ∘ h.ready
  sink := by
    rw [h'.sink, h.sink, List.filterMap_append]
    cases u.sink <;> simp

/-- An operation that concerns neither direction. -/
theorem of_same {operation : Operation} (queue : v.queue = u.queue) (wire : v.wire = u.wire)
    (sink : v.sink = u.sink) (status : v.regs.get sr = u.regs.get sr)
    (data : v.regs.get dr = u.regs.get dr) (keeps : clears operation = false)
    (silent : sends operation = none) : Performed u v [operation] where
  queue := queue
  wire := wire
  received := data
  full := by rw [Uart.full, Uart.full, status]; simp [keeps]
  ready := by rw [status]; exact id
  sink := by rw [sink]; cases u.sink <;> simp [silent]

end Performed

theorem performed_read (u : Uart) (i : Nat) : Performed u (perform u (.read i)) [.read i] := by
  have fetched : perform u (.read i) = (u.fetch i).2 := settle_eq _ i
  rw [fetched]
  unfold fetch
  by_cases data : i = dr
  · subst data
    have cleared : (u.regs.clearBits sr rxne).get sr = u.regs.get sr &&& ~~~rxne :=
      u.regs.get_clearBits (by decide) rxne
    refine ⟨rfl, rfl, RegisterFile.get_set_ne _ (by decide) _, ?_, fun ready => ?_, ?_⟩
    · show anySet ((u.regs.clearBits sr rxne).get sr) rxne = _
      rw [cleared, not_anySet_and (by decide)]
      simp [clears]
    · show anySet ((u.regs.clearBits sr rxne).get sr) txe = true
      rwa [cleared, anySet_and (by decide)]
    · show u.sink = _
      cases u.sink <;> simp [sends]
  · simp only [if_neg data]
    exact .of_same rfl rfl rfl rfl rfl (by simp [clears, data]) rfl

theorem performed_write (u : Uart) (i : Nat) (word : UInt32) :
    Performed u (perform u (.write i word)) [.write i word] := by
  show Performed u (u.commit i word) _
  unfold commit
  by_cases data : i = dr
  · subst data
    have raised : (u.regs.setBits sr (txe ||| tc)).get sr = u.regs.get sr ||| (txe ||| tc) :=
      u.regs.get_setBits (by decide) _
    refine ⟨rfl, rfl, RegisterFile.get_set_ne _ (by decide) _, ?_, fun ready => ?_, ?_⟩
    · have apart : anySet (txe ||| tc) rxne = false := by decide
      show anySet ((u.regs.setBits sr (txe ||| tc)).get sr) rxne = _
      rw [raised, anySet_or, apart]
      simp [clears, full]
    · show anySet ((u.regs.setBits sr (txe ||| tc)).get sr) txe = true
      rw [raised, anySet_or, ready]
      rfl
    · have low : (word &&& 0xFF).toUInt8 = word.toUInt8 := by
        apply UInt8.toNat_inj.1
        simp
        exact (Nat.and_two_pow_sub_one_eq_mod _ 8).trans (Nat.mod_mod _ _)
      show u.sink.map _ = _
      cases u.sink <;> simp [sends, low]
  · rw [if_neg data]
    by_cases status : i = sr
    · subst status
      obtain ⟨stored, kept⟩ := anySet_store_sr u.regs word
      refine ⟨rfl, rfl, RegisterFile.get_set_ne _ (by decide) _, ?_, kept, ?_⟩
      · show anySet ((u.regs.store sr word).get sr) rxne = _
        rw [stored]
        simp [clears, full]
      · show u.sink = _
        cases u.sink <;> simp [sends]
    · exact .of_same rfl rfl rfl (RegisterFile.get_set_ne _ status _)
        (RegisterFile.get_set_ne _ data _) (by simp [clears, status]) (if_neg data)

theorem performed_operation (u : Uart) (operation : Operation) :
    Performed u (perform u operation) [operation] := by
  cases operation with
  | read i => exact performed_read u i
  | write i word => exact performed_write u i word

theorem performed_access (u : Uart) (offset : UInt64) (size : AccessSize) (direction : Direction)
    (payload : UInt64) :
    Performed u (u.act (.access offset size direction payload))
      (u.operationsOf (.access offset size direction payload)) :=
  Peripheral.access_induction u offset size direction payload .refl fun u _ operation _ rest =>
    (performed_operation u operation).trans rest

-- ---------------------------------------------------------------------------
-- A step of time
-- ---------------------------------------------------------------------------

inductive Updated (u v : Uart) : Prop where
  | keeps (waits : u.full = true ∨ u.queue ++ u.wire = []) (queue : v.queue = u.queue ++ u.wire)
      (wire : v.wire = []) (received : v.regs.get dr = u.regs.get dr) (full : v.full = u.full)
  | loads {byte : UInt8} (clear : u.full = false)
      (pending : u.queue ++ u.wire = byte :: v.queue) (wire : v.wire = [])
      (received : v.regs.get dr = byte.toUInt32) (full : v.full = true)

theorem advance_eq (u : Uart) (nanos : Nat) :
    (u.advance nanos).1 = { u.drainWire.loadNext.2 with transmitted := false } := rfl

theorem updated (u : Uart) (nanos : Nat) : Updated u (u.advance nanos).1 := by
  rw [advance_eq]
  unfold loadNext
  split
  · next byte queue pending =>
    split
    · next waits => exact .keeps (.inl waits) rfl rfl rfl rfl
    · next clear =>
      refine .loads (Bool.eq_false_iff.2 clear) pending rfl ?_ ?_
      · show ((u.regs.set dr byte.toUInt32).setBits sr rxne).get dr = _
        rw [RegisterFile.setBits, RegisterFile.get_set_ne _ (by decide),
          RegisterFile.get_set _ (by decide)]
      · show anySet (((u.regs.set dr byte.toUInt32).setBits sr rxne).get sr) rxne = true
        rw [RegisterFile.get_setBits _ (by decide), anySet_or, Bool.or_eq_true]
        exact .inr (by decide)
  · next empty => exact .keeps (.inr empty) rfl rfl rfl rfl

theorem sink_advance (u : Uart) (nanos : Nat) : (u.advance nanos).1.sink = u.sink := by
  rw [advance_eq]
  unfold loadNext
  split
  · split <;> rfl
  · rfl

theorem txe_advance {u : Uart} (ready : anySet (u.regs.get sr) txe = true) (nanos : Nat) :
    anySet ((u.advance nanos).1.regs.get sr) txe = true := by
  rw [advance_eq]
  unfold loadNext
  split
  · split
    · exact ready
    · show anySet (((u.regs.set dr _).setBits sr rxne).get sr) txe = true
      rw [RegisterFile.get_setBits _ (by decide), RegisterFile.get_set_ne _ (by decide), anySet_or,
        ready]
      rfl
  · exact ready

/-- What has been loaded, what is queued and what is on the wire is all that was sent. -/
theorem loadedBy_append_pending (u : Uart) (a : Action) :
    u.loadedBy a ++ ((u.act a).queue ++ (u.act a).wire) = u.queue ++ u.wire ++ sentBy a := by
  cases a with
  | send bytes => simp [loadedBy, sentBy, act, send]
  | access offset size direction payload =>
    have h := performed_access u offset size direction payload
    rw [h.queue, h.wire]
    simp [loadedBy, sentBy]
  | advance nanos =>
    show u.loadedBy (.advance nanos) ++ ((u.advance nanos).1.queue ++ (u.advance nanos).1.wire) = _
    cases updated u nanos with
    | keeps waits queue wire received full =>
      simp [loadedBy, sentBy, full, queue, wire]
    | loads clear pending wire received full =>
      simp [loadedBy, sentBy, clear, full, pending, wire, received]

-- ---------------------------------------------------------------------------
-- The contract
-- ---------------------------------------------------------------------------

structure StreamContract (actions : List Action) (u : Uart) : Prop where
  received : fresh.along loadedBy actions ++ (u.queue ++ u.wire) = actions.flatMap sentBy
  sent : u.sink = some (fresh.along sentToSink actions).toArray
  ready : anySet (u.regs.get sr) txe = true
  /-- Firmware that polls `TXE` can go on. -/
  answers : ∀ payload, anySet (Peripheral.access u 0x00 .word .read payload).1.toUInt32 txe = true
  loads : ∀ nanos, Updated u (u.advance nanos).1
  /-- Whatever happens then, the byte in `DR` stays until `RXNE` is cleared. -/
  holds : u.full = true → ∀ more, (∀ operation ∈ u.along operationsOf more,
    clears operation = false) → (u.after more).full = true ∧
      (u.after more).regs.get dr = u.regs.get dr
  unset : u.full = false → ∀ offset size direction payload,
    (Peripheral.access u offset size direction payload).2.full = false

section
variable (u : Uart) (actions : List Action)

theorem received_after : u.along loadedBy actions ++
    ((u.after actions).queue ++ (u.after actions).wire) =
      u.queue ++ u.wire ++ actions.flatMap sentBy := by
  induction actions generalizing u with
  | nil => simp [along, after]
  | cons a rest ih =>
    calc u.loadedBy a ++ (u.act a).along loadedBy rest ++
          (((u.act a).after rest).queue ++ ((u.act a).after rest).wire)
      _ = u.loadedBy a ++ ((u.act a).queue ++ (u.act a).wire ++ rest.flatMap sentBy) := by
          rw [List.append_assoc, ih]
      _ = u.queue ++ u.wire ++ sentBy a ++ rest.flatMap sentBy := by
          rw [← List.append_assoc, loadedBy_append_pending]
      _ = u.queue ++ u.wire ++ (a :: rest).flatMap sentBy := by
          rw [List.flatMap_cons, List.append_assoc]

theorem sink_act (a : Action) :
    (u.act a).sink = u.sink.map (· ++ (u.sentToSink a).toArray) := by
  cases a with
  | send bytes =>
    show u.sink = _
    cases u.sink <;> simp [sentToSink, operationsOf]
  | advance nanos =>
    show (u.advance nanos).1.sink = _
    rw [sink_advance]
    cases u.sink <;> simp [sentToSink, operationsOf]
  | access offset size direction payload =>
    exact (performed_access u offset size direction payload).sink

theorem sink_after : (u.after actions).sink =
    u.sink.map (· ++ (u.along sentToSink actions).toArray) := by
  induction actions generalizing u with
  | nil => cases h : u.sink <;> simp [along, after, h]
  | cons a rest ih =>
    show ((u.act a).after rest).sink = _
    rw [ih, sink_act]
    cases u.sink <;> simp [along]

variable {u}

theorem txe_after (ready : anySet (u.regs.get sr) txe = true) :
    anySet ((u.after actions).regs.get sr) txe = true := by
  induction actions generalizing u with
  | nil => exact ready
  | cons a rest ih =>
    refine ih (u := u.act a) ?_
    cases a with
    | send bytes => exact ready
    | advance nanos => exact txe_advance ready nanos
    | access offset size direction payload =>
      exact (performed_access u offset size direction payload).ready ready

/-- A byte in `DR` outlives every action that does not clear `RXNE`. -/
theorem holds_act (h : u.full = true) {a : Action}
    (keeps : ∀ operation ∈ u.operationsOf a, clears operation = false) :
    (u.act a).full = true ∧ (u.act a).regs.get dr = u.regs.get dr := by
  cases a with
  | send bytes => exact ⟨h, rfl⟩
  | advance nanos =>
    show (u.advance nanos).1.full = true ∧ (u.advance nanos).1.regs.get dr = _
    cases updated u nanos with
    | keeps waits queue wire received full => exact ⟨full.trans h, received⟩
    | loads clear => exact absurd (clear.symm.trans h) Bool.false_ne_true
  | access offset size direction payload =>
    have accessed := performed_access u offset size direction payload
    refine ⟨?_, accessed.received⟩
    rw [accessed.full, h, Bool.true_and, List.all_eq_true]
    intro operation mem
    rw [keeps operation mem]
    rfl

theorem holds_after (h : u.full = true)
    (keeps : ∀ operation ∈ u.along operationsOf actions, clears operation = false) :
    (u.after actions).full = true ∧ (u.after actions).regs.get dr = u.regs.get dr := by
  induction actions generalizing u with
  | nil => exact ⟨h, rfl⟩
  | cons a rest ih =>
    obtain ⟨full, received⟩ := holds_act h fun operation mem =>
      keeps operation (List.mem_append_left _ mem)
    obtain ⟨full', received'⟩ := ih full fun operation mem =>
      keeps operation (List.mem_append_right _ mem)
    exact ⟨full', received'.trans received⟩

end

/-- Firmware finds `TXE` set. -/
theorem polls {u : Uart} (ready : anySet (u.regs.get sr) txe = true) (payload : UInt64) :
    anySet (Peripheral.access u 0x00 .word .read payload).1.toUInt32 txe = true := by
  rw [Peripheral.access_read_word (by decide), UInt32.toUInt32_toUInt64]
  exact ready

/-- The streams of a UART with a sink, from reset through any actions. -/
theorem streamContract_after (actions : List Action) :
    StreamContract actions (fresh.after actions) where
  received := received_after fresh actions
  sent := by
    rw [sink_after]
    simp [fresh, attachSink]
  ready := txe_after actions (by decide)
  answers := polls (txe_after actions (by decide))
  loads := updated _
  holds full more keeps := holds_after more full keeps
  unset clear offset size direction payload := by
    have accessed := performed_access (fresh.after actions) offset size direction payload
    show (Uart.act _ (.access offset size direction payload)).full = false
    rw [accessed.full, clear, Bool.false_and]

end BoardSim.Uart
