import Mathlib.Data.List.DropRight
import BoardSim.Peripheral.Spi
import BoardSim.Proofs.Peripheral.Bits
import BoardSim.Proofs.Peripheral.Extent

/-!
# The transfers of an SPI master

A write of `DR` puts a byte in flight, the next step of time exchanges it for the slave's answer,
and the flags in `SR` say at every moment whether a byte is in flight (`Sound`, kept by every
action). The slave is asked once for each byte that is exchanged, in order, and the log holds the
latest exchanges since it was taken. Firmware that waits for `TXE` before it writes `DR` neither
loses nor doubles a byte (`TransferContract`). An access is taken apart into its register
operations: `Performed` is what one of them does, and `Updated` what a step of time does.
-/

namespace BoardSim.Spi

open Peripheral (Operation Piece perform pieces payloadByte wordOffset)

inductive Action where
  | access (offset : UInt64) (size : AccessSize) (direction : Direction) (payload : UInt64)
  | advance (nanos : Nat)
  | setResponder (responder : Option Responder)
  | takeExchanges

def act (s : Spi) : Action → Spi
  | .access offset size direction payload => (Peripheral.access s offset size direction payload).2
  | .advance nanos => (s.advance nanos).1
  | .setResponder responder => s.setResponder responder
  | .takeExchanges => s.takeExchanges.2

def after (s : Spi) (actions : List Action) : Spi := actions.foldl act s

def fresh : Spi := {}

def enabled (s : Spi) : Bool := anySet (s.regs.get cr1) spe

def ready (s : Spi) : Bool := anySet (s.regs.get sr) txe

def busy (s : Spi) : Bool := anySet (s.regs.get sr) bsy

structure Sound (s : Spi) : Prop where
  busy : s.busy = s.inFlight.isSome
  ready : s.ready = s.inFlight.isNone

-- ---------------------------------------------------------------------------
-- What can be seen of a run
-- ---------------------------------------------------------------------------

/-- What `f` sees of each action in a run, in order. -/
def along {α : Type} (f : Spi → Action → List α) (s : Spi) : List Action → List α
  | [] => []
  | a :: rest => f s a ++ along f (s.act a) rest

def completedBy (s : Spi) : Action → List (UInt8 × UInt8)
  | .advance nanos =>
    s.inFlight.toList.map fun sent => (sent, ((s.advance nanos).1.regs.get dr).toUInt8)
  | _ => []

/-- The exchanges completed since the log was taken, `pairs` before the run. -/
def sinceTaken (s : Spi) (pairs : List (UInt8 × UInt8)) : List Action → List (UInt8 × UInt8)
  | [] => pairs
  | .takeExchanges :: rest => (s.act .takeExchanges).sinceTaken [] rest
  | a :: rest => (s.act a).sinceTaken (pairs ++ s.completedBy a) rest

def operationsOf (s : Spi) : Action → List Operation
  | .access offset size direction payload => Peripheral.operations s offset size direction payload
  | _ => []

def sends : Operation → Option UInt8
  | .write i word => if i = dr then some word.toUInt8 else none
  | .read _ => none

def sentBy (s : Spi) (a : Action) : List UInt8 := (s.operationsOf a).filterMap sends

/-- Firmware writes `DR` only while the master is enabled and `TXE` is set. -/
def Waits (s : Spi) : List Operation → Prop
  | [] => True
  | operation :: rest =>
    ((sends operation).isSome = true → s.enabled = true ∧ s.ready = true) ∧
      (perform s operation).Waits rest

def WaitsAlong (s : Spi) : List Action → Prop
  | [] => True
  | a :: rest => s.Waits (s.operationsOf a) ∧ (s.act a).WaitsAlong rest

/-- What a slave answers to bytes, one call for each of them in order, and the slave after that.
Without a slave the bytes come back. -/
def asked : Option Responder → List UInt8 → List UInt8 × Option Responder
  | none, bytes => (bytes, none)
  | some r, [] => ([], some r)
  | some r, byte :: rest =>
    let (answer, state) := r.answer r.state byte
    let (answers, slave) := asked (some { r with state }) rest
    (answer :: answers, slave)

theorem asked_append (slave : Option Responder) (bytes more : List UInt8) :
    asked slave (bytes ++ more) =
      ((asked slave bytes).1 ++ (asked (asked slave bytes).2 more).1,
        (asked (asked slave bytes).2 more).2) := by
  cases slave with
  | none => simp only [asked]
  | some r =>
    induction bytes generalizing r with
    | nil => rfl
    | cons byte rest ih => simp only [List.cons_append, asked, ih]

-- ---------------------------------------------------------------------------
-- The log
-- ---------------------------------------------------------------------------

/-- The latest `n` of a list, from the latest `n + 1`. -/
theorem rtake_of_rtake_succ {α : Type} (l : List α) (n : Nat) :
    (if (l.rtake (n + 1)).length = n + 1 then (l.rtake (n + 1)).drop 1 else l.rtake (n + 1)) =
      l.rtake n := by
  simp only [List.rtake, List.length_drop, List.drop_drop]
  split
  · next full => rw [show l.length - (n + 1) + 1 = l.length - n by omega]
  · next room => rw [show l.length - (n + 1) = l.length - n by omega]

/-- A log that holds the latest entries holds them again after one more. -/
theorem logExchange_rtake (pairs : List (UInt8 × UInt8)) (entry : UInt8 × UInt8) :
    logExchange (pairs.rtake logDepth) entry = (pairs ++ [entry]).rtake logDepth := by
  have latest := rtake_of_rtake_succ pairs 255
  have concat := List.rtake_concat_succ pairs 255 entry
  exact (congrArg (· ++ [entry]) latest).trans concat.symm

-- ---------------------------------------------------------------------------
-- One register operation
-- ---------------------------------------------------------------------------

theorem settle_eq (s : Spi) (i : Nat) : Peripheral.settle s i = s :=
  Peripheral.settle_of_keep (by decide : ∀ r ∈ layout, r.onRead = .keep) i

structure Performed (s v : Spi) (operation : Operation) : Prop where
  exchanges : v.exchanges = s.exchanges
  responder : v.responder = s.responder
  received : v.regs.get dr = s.regs.get dr
  sound : s.Sound → v.Sound
  inFlight : v.inFlight = if s.enabled then (sends operation).or s.inFlight else s.inFlight

/-- An operation that is no write of `DR` and leaves the flags alone. -/
theorem Performed.of_same {s v : Spi} {operation : Operation}
    (exchanges : v.exchanges = s.exchanges) (responder : v.responder = s.responder)
    (received : v.regs.get dr = s.regs.get dr)
    (busy : v.busy = s.busy) (ready : v.ready = s.ready) (inFlight : v.inFlight = s.inFlight)
    (silent : sends operation = none) : Performed s v operation where
  exchanges := exchanges
  responder := responder
  received := received
  sound h := ⟨by rw [busy, inFlight, h.busy], by rw [ready, inFlight, h.ready]⟩
  inFlight := by rw [inFlight, silent, Option.none_or, ite_self]

theorem performed_read (s : Spi) (i : Nat) : Performed s (perform s (.read i)) (.read i) := by
  have fetched : perform s (.read i) = (s.fetch i).2 := settle_eq _ i
  rw [fetched]
  unfold fetch
  by_cases data : i = dr
  · subst data
    have cleared : (s.regs.clearBits sr rxne).get sr = s.regs.get sr &&& ~~~rxne :=
      s.regs.get_clearBits (by decide) rxne
    refine .of_same rfl rfl (s.regs.get_clearBits_ne _ (by decide) _) ?_ ?_ rfl rfl
    · show anySet ((s.regs.clearBits sr rxne).get sr) bsy = _
      rw [cleared, anySet_and (by decide), busy]
    · show anySet ((s.regs.clearBits sr rxne).get sr) txe = _
      rw [cleared, anySet_and (by decide), ready]
  · simp only [if_neg data]
    exact .of_same rfl rfl rfl rfl rfl rfl rfl

/-- Firmware cannot write the flags. -/
theorem flags_store (s : Spi) {i : Nat} (other : i ≠ dr) (word : UInt32) :
    ({ s with regs := s.regs.store i word }).busy = s.busy ∧
      ({ s with regs := s.regs.store i word }).ready = s.ready := by
  unfold busy ready
  by_cases status : i = sr
  · subst status
    have stored : (s.regs.store sr word).get sr =
        (s.regs.get sr &&& ~~~crcerr) ||| ((s.regs.get sr &&& word) &&& crcerr) :=
      s.regs.get_store (by decide) word
    constructor <;>
      simp only [stored, anySet_or, anySet_and (show ~~~crcerr &&& bsy = bsy by decide),
        anySet_and (show ~~~crcerr &&& txe = txe by decide),
        not_anySet_and (show crcerr &&& bsy = 0 by decide),
        not_anySet_and (show crcerr &&& txe = 0 by decide), Bool.or_false]
  · have kept : (s.regs.store i word).get sr = s.regs.get sr := s.regs.get_store_ne i status word
    exact ⟨by rw [kept], by rw [kept]⟩

theorem commit_dr_of_disabled {s : Spi} (disabled : s.enabled = false) (word : UInt32) :
    s.commit dr word = s := by
  unfold enabled at disabled
  simp [commit, disabled]

theorem commit_dr_of_enabled {s : Spi} (enabled : s.enabled = true) (word : UInt32) :
    s.commit dr word =
      { s with
        inFlight := some word.toUInt8
        regs := (s.regs.setBits sr bsy).clearBits sr txe } := by
  have low : (word &&& 0xFF).toUInt8 = word.toUInt8 := by
    apply UInt8.toNat_inj.1
    simp
    exact (Nat.and_two_pow_sub_one_eq_mod _ 8).trans (Nat.mod_mod _ _)
  unfold Spi.enabled at enabled
  simp [commit, enabled, low]

theorem performed_write (s : Spi) (i : Nat) (word : UInt32) :
    Performed s (perform s (.write i word)) (.write i word) := by
  show Performed s (s.commit i word) _
  by_cases data : i = dr
  · subst data
    cases on : s.enabled with
    | false =>
      rw [commit_dr_of_disabled on]
      exact ⟨rfl, rfl, rfl, id, by rw [on]; rfl⟩
    | true =>
      rw [commit_dr_of_enabled on]
      have flags : ((s.regs.setBits sr bsy).clearBits sr txe).get sr =
          (s.regs.get sr ||| bsy) &&& ~~~txe := by
        rw [RegisterFile.get_clearBits _ (by decide), RegisterFile.get_setBits _ (by decide)]
      refine ⟨rfl, rfl, ?_, fun _ => ⟨?_, ?_⟩, by rw [on]; rfl⟩
      · exact ((s.regs.setBits sr bsy).get_clearBits_ne _ (by decide) _).trans
          (s.regs.get_setBits_ne _ (by decide) _)
      · show anySet (((s.regs.setBits sr bsy).clearBits sr txe).get sr) bsy = true
        rw [flags, anySet_and (by decide), anySet_or, Bool.or_eq_true]
        exact .inr (by decide)
      · show anySet (((s.regs.setBits sr bsy).clearBits sr txe).get sr) txe = false
        rw [flags, not_anySet_and (by decide)]
  · obtain ⟨busy, ready⟩ := flags_store s data word
    have stored : s.commit i word = { s with regs := s.regs.store i word } := if_pos data
    rw [stored]
    exact .of_same rfl rfl (s.regs.get_store_ne i data word) busy ready rfl (if_neg data)

theorem performed_operation (s : Spi) (operation : Operation) :
    Performed s (perform s operation) operation := by
  cases operation with
  | read i => exact performed_read s i
  | write i word => exact performed_write s i word

structure Accessed (s v : Spi) (operations : List Operation) : Prop where
  exchanges : v.exchanges = s.exchanges
  responder : v.responder = s.responder
  sound : s.Sound → v.Sound
  inFlight : s.Sound → s.Waits operations →
    v.inFlight.toList = s.inFlight.toList ++ operations.filterMap sends

theorem Performed.accessed {s v w : Spi} {operation : Operation} {rest : List Operation}
    (first : Performed s v operation) (v_eq : v = perform s operation)
    (later : Accessed v w rest) : Accessed s w (operation :: rest) where
  exchanges := later.exchanges.trans first.exchanges
  responder := later.responder.trans first.responder
  sound := later.sound ∘ first.sound
  inFlight h waits := by
    subst v_eq
    rw [later.inFlight (first.sound h) waits.2, first.inFlight]
    cases sent : sends operation with
    | none => simp [sent]
    | some byte =>
      obtain ⟨on, ready⟩ := waits.1 (by rw [sent]; rfl)
      have free : s.inFlight = none := Option.isNone_iff_eq_none.1 (h.ready.symm.trans ready)
      simp [sent, on, free]

theorem accessed (s : Spi) (offset : UInt64) (size : AccessSize) (direction : Direction)
    (payload : UInt64) :
    Accessed s (s.act (.access offset size direction payload))
      (s.operationsOf (.access offset size direction payload)) :=
  Peripheral.access_induction s offset size direction payload
    (fun _ => ⟨rfl, rfl, id, fun _ _ => by simp⟩)
    fun d _ operation _ later => (performed_operation d operation).accessed rfl later

-- ---------------------------------------------------------------------------
-- The pieces of a write
-- ---------------------------------------------------------------------------

/-- The low byte that a piece of a write access writes to `DR`, if it writes there at all: the
payload's, or the one that `DR` holds if the piece does not cover it. -/
def lowByte? (s : Spi) (offset payload : UInt64) (p : Piece) : Option UInt8 :=
  if layout.indexOf? (wordOffset (offset + UInt64.ofNat p.first)) = some dr then
    some (if (offset + UInt64.ofNat p.first).toNat % 4 = 0 then payloadByte payload p.first
      else (s.regs.get dr).toUInt8)
  else none

/-- The lowest lane of a merged word, of a register that takes what is written. -/
theorem toUInt8_mergeLanes {r : Register} (replaces : r.onWrite = .replace) (held : UInt32)
    (offset payload : UInt64) {n : Nat} (positive : 0 < n) (fits : offset.toNat % 4 + n ≤ 4) :
    (r.mergeLanes held (Peripheral.laneMask offset n)
      (payload.toUInt32 <<< Peripheral.laneShift offset)).toUInt8 =
        if offset.toNat % 4 = 0 then payloadByte payload 0 else held.toUInt8 := by
  -- a register without rules of its own merges in the same way
  let plain : Register := { name := r.name, offset := r.offset }
  have same : r.mergeLanes held = plain.mergeLanes held := by
    funext mask lanes
    simp only [Register.mergeLanes, Register.fill, replaces, plain]
  have lowest (word : UInt32) : Peripheral.laneOf word 0 = word.toUInt8 := by
    simp [Peripheral.laneOf]
  have lane := Peripheral.laneOf_store_mergeLanes plain held offset payload positive fits
    (k := 0) (by decide)
  rw [Register.store_of_plain rfl, lowest, lowest] at lane
  rw [same, lane]
  by_cases low : offset.toNat % 4 = 0
  · have all : Peripheral.laneOf plain.writable 0 = ~~~0 :=
      show Peripheral.laneOf 0xFFFFFFFF 0 = ~~~0 by decide
    rw [if_pos (by omega), if_pos low, low, all]
    simp [WriteAction.byte, plain]
  · rw [if_neg (by omega), if_neg low]

/-- Writes leave what has been received in `DR`. -/
theorem get_dr_commit (s : Spi) (i : Nat) (word : UInt32) :
    (s.commit i word).regs.get dr = s.regs.get dr :=
  (performed_write s i word).received

theorem sends_storePiece (r : Peripheral.Recorded Spi) {offset : UInt64} (payload : UInt64)
    {size : AccessSize} {p : Piece} (mem : p ∈ pieces offset size) :
    (Peripheral.storePiece offset payload r p).device.regs.get dr = r.device.regs.get dr ∧
      (Peripheral.storePiece offset payload r p).operations.filterMap sends =
        r.operations.filterMap sends ++ (r.device.lowByte? offset payload p).toList := by
  obtain ⟨positive, fits, inside⟩ := Peripheral.inside_of_mem mem
  have short : size.bytes ≤ 8 := by cases size <;> decide
  cases found : layout.indexOf? (wordOffset (offset + UInt64.ofNat p.first)) with
  | none =>
    have nothing : Peripheral.storePiece offset payload r p = r :=
      Peripheral.storeWord_of_none _ found
    rw [nothing, lowByte?, if_neg (by simp [found])]
    exact ⟨rfl, (List.append_nil _).symm⟩
  | some i =>
    have listed : i < layout.length := Layout.indexOf?_lt found
    have there : layout[i]? = some layout[i] := List.getElem?_eq_getElem listed
    rw [Peripheral.storePiece, Peripheral.storeWord_of_some (d := r) found there]
    refine ⟨get_dr_commit _ _ _, List.filterMap_append.trans (congrArg _ ?_)⟩
    by_cases data : i = dr
    · subst data
      have low := toUInt8_mergeLanes (r := layout[dr]) rfl (r.device.regs.get dr)
        (offset + UInt64.ofNat p.first) (payload >>> UInt64.ofNat (8 * p.first)) positive fits
      rw [Nat.mul_comm, Peripheral.payloadByte_shiftRight _ (by omega), Nat.add_zero] at low
      rw [lowByte?, if_pos found, ← low, Nat.mul_comm]
      rfl
    · rw [lowByte?, if_neg fun is => data (Option.some.inj (found.symm.trans is)),
        List.filterMap_cons, sends, if_neg data]
      rfl

/-- What a write access sends. -/
theorem sentBy_write (s : Spi) (offset : UInt64) (size : AccessSize) (payload : UInt64) :
    s.sentBy (.access offset size .write payload) =
      (pieces offset size).filterMap (s.lowByte? offset payload) := by
  have run (r : Peripheral.Recorded Spi) (same : r.device.regs.get dr = s.regs.get dr)
      {list : List Piece} (within : ∀ p ∈ list, p ∈ pieces offset size) :
      (list.foldl (Peripheral.storePiece offset payload) r).operations.filterMap sends =
        r.operations.filterMap sends ++ list.filterMap (s.lowByte? offset payload) := by
    induction list generalizing r with
    | nil => simp
    | cons p rest ih =>
      obtain ⟨kept, sent⟩ := sends_storePiece r payload (within p List.mem_cons_self)
      have head : r.device.lowByte? offset payload p = s.lowByte? offset payload p := by
        rw [lowByte?, same, lowByte?]
      have later := ih _ (kept.trans same) fun q mem => within q (List.mem_cons_of_mem p mem)
      rw [List.foldl_cons, later, sent, head, List.append_assoc, List.filterMap_cons]
      cases s.lowByte? offset payload p <;> rfl
  have stored : s.operationsOf (.access offset size .write payload) =
      (Peripheral.store ({ device := s } : Peripheral.Recorded Spi) offset size
        payload).operations :=
    rfl
  rw [sentBy, stored, Peripheral.store_eq_foldl]
  exact run { device := s } rfl fun _ mem => mem

/-- A disabled master ignores what is written to `DR`. -/
theorem access_of_disabled {s : Spi} (disabled : s.enabled = false) {offset : UInt64}
    {size : AccessSize} (only : ∀ k < size.bytes, ∀ i,
      layout.indexOf? (wordOffset (offset + UInt64.ofNat k)) = some i → i = dr) (payload : UInt64) :
    s.act (.access offset size .write payload) = s := by
  have run {list : List Piece} (within : ∀ p ∈ list, p ∈ pieces offset size) :
      list.foldl (Peripheral.storePiece offset payload) s = s := by
    induction list with
    | nil => rfl
    | cons p rest ih =>
      obtain ⟨positive, -, inside⟩ := Peripheral.inside_of_mem (within p List.mem_cons_self)
      have nothing : Peripheral.storePiece offset payload s p = s := by
        cases found : layout.indexOf? (wordOffset (offset + UInt64.ofNat p.first)) with
        | none => exact Peripheral.storeWord_of_none _ found
        | some i =>
          obtain rfl := only p.first (by omega) i found
          have there : layout[dr]? = some layout[dr] := rfl
          rw [Peripheral.storePiece, Peripheral.storeWord_of_some (d := s) found there]
          exact commit_dr_of_disabled disabled _
      rw [List.foldl_cons, nothing]
      exact ih fun q mem => within q (List.mem_cons_of_mem p mem)
  show Peripheral.store s offset size payload = s
  rw [Peripheral.store_eq_foldl]
  exact run fun _ mem => mem

-- ---------------------------------------------------------------------------
-- A step of time
-- ---------------------------------------------------------------------------

inductive Updated (s v : Spi) (result : TickResult) : Prop
  | idle (free : s.inFlight = none) (same : v = s) (quiet : result = .quiet)
  | completes {sent received : UInt8} (flying : s.inFlight = some sent)
      (answer : asked s.responder [sent] = ([received], v.responder)) (free : v.inFlight = none)
      (data : v.regs.get dr = received.toUInt32)
      (status : v.regs.get sr = (s.regs.get sr ||| (rxne ||| txe)) &&& ~~~bsy)
      (others : ∀ i, i ≠ dr → i ≠ sr → v.regs.get i = s.regs.get i)
      (log : v.exchanges = logExchange s.exchanges (sent, received))
      (request : result = .line (anySet (s.regs.get cr2) rxneie))

theorem asked_exchange (s : Spi) (sent : UInt8) :
    asked s.responder [sent] = ([(s.exchange sent).1], (s.exchange sent).2) := by
  unfold exchange
  cases s.responder <;> simp [asked]

theorem updated (s : Spi) (nanos : Nat) : Updated s (s.advance nanos).1 (s.advance nanos).2 := by
  unfold advance
  cases flying : s.inFlight with
  | none => exact .idle flying rfl rfl
  | some sent =>
    have regs (i : Nat) (status : i ≠ sr) :
        (((s.regs.set dr (s.exchange sent).1.toUInt32).setBits sr (rxne ||| txe)).clearBits sr
          bsy).get i = (s.regs.set dr (s.exchange sent).1.toUInt32).get i :=
      (RegisterFile.get_clearBits_ne _ _ (Ne.symm status) _).trans
        (RegisterFile.get_setBits_ne _ _ (Ne.symm status) _)
    have control := (regs cr2 (by decide)).trans (s.regs.get_set_ne (by decide) _)
    dsimp only
    rw [control]
    refine .completes flying (asked_exchange s sent) rfl ?_ ?_ ?_ rfl rfl
    · exact (regs dr (by decide)).trans (s.regs.get_set (by decide) _)
    · show (((s.regs.set dr (s.exchange sent).1.toUInt32).setBits sr (rxne ||| txe)).clearBits sr
        bsy).get sr = _
      rw [RegisterFile.get_clearBits _ (by decide), RegisterFile.get_setBits _ (by decide),
        RegisterFile.get_set_ne _ (by decide)]
    · intro i data status
      exact (regs i status).trans (s.regs.get_set_ne (Ne.symm data) _)

-- ---------------------------------------------------------------------------
-- Runs
-- ---------------------------------------------------------------------------

def attaches : Action → Bool
  | .setResponder _ => true
  | _ => false

section
variable {s : Spi}

theorem sound_fresh : fresh.Sound := ⟨by decide, by decide⟩

theorem Sound.act (h : s.Sound) (a : Action) : (s.act a).Sound := by
  cases a with
  | access offset size direction payload => exact (accessed s offset size direction payload).sound h
  | setResponder responder => exact ⟨h.busy, h.ready⟩
  | takeExchanges => exact ⟨h.busy, h.ready⟩
  | advance nanos =>
    show (s.advance nanos).1.Sound
    cases updated s nanos with
    | idle free same => rwa [same]
    | completes flying answer free data status =>
      have busy : (s.advance nanos).1.busy = false := by
        rw [Spi.busy, status, not_anySet_and (by decide)]
      have ready : (s.advance nanos).1.ready = true := by
        rw [Spi.ready, status, anySet_and (by decide), anySet_or, Bool.or_eq_true]
        exact .inr (by decide)
      exact ⟨by rw [busy, free]; rfl, by rw [ready, free]; rfl⟩

theorem Sound.after (h : s.Sound) (actions : List Action) : (s.after actions).Sound := by
  induction actions generalizing s with
  | nil => exact h
  | cons a rest ih => exact ih (h.act a)

theorem completedBy_of_flying {sent received : UInt8} {nanos : Nat}
    (flying : s.inFlight = some sent) (data : (s.advance nanos).1.regs.get dr = received.toUInt32) :
    s.completedBy (.advance nanos) = [(sent, received)] := by
  simp [completedBy, flying, data]

theorem completedBy_of_free (free : s.inFlight = none) (nanos : Nat) :
    s.completedBy (.advance nanos) = [] := by
  simp [completedBy, free]

/-- Only a completed exchange asks the slave, and it asks once. -/
theorem asked_act {a : Action} (stays : attaches a = false) :
    asked s.responder ((s.completedBy a).map Prod.fst) =
      ((s.completedBy a).map Prod.snd, (s.act a).responder) := by
  have silent (slave : Option Responder) : asked slave [] = ([], slave) := by
    cases slave <;> rfl
  cases a with
  | access offset size direction payload =>
    rw [(accessed s offset size direction payload).responder]
    exact silent _
  | setResponder responder => cases stays
  | takeExchanges => exact silent _
  | advance nanos =>
    show _ = (_, (s.advance nanos).1.responder)
    cases updated s nanos with
    | idle free same =>
      rw [completedBy_of_free free, same]
      exact silent _
    | completes flying answer free data =>
      rw [completedBy_of_flying flying data]
      exact answer

theorem asked_after {actions : List Action} (stays : ∀ a ∈ actions, attaches a = false) :
    asked s.responder ((s.along completedBy actions).map Prod.fst) =
      ((s.along completedBy actions).map Prod.snd, (s.after actions).responder) := by
  induction actions generalizing s with
  | nil => cases h : s.responder <;> simp [along, after, asked, h]
  | cons a rest ih =>
    have first := asked_act (s := s) (stays a List.mem_cons_self)
    have later := ih (s := s.act a) fun b mem => stays b (List.mem_cons_of_mem a mem)
    rw [along, List.map_append, List.map_append, asked_append, first]
    dsimp only
    rw [later]
    rfl

theorem exchanges_after {pairs : List (UInt8 × UInt8)} (latest : s.exchanges = pairs.rtake logDepth)
    (actions : List Action) :
    (s.after actions).exchanges = (s.sinceTaken pairs actions).rtake logDepth := by
  induction actions generalizing s pairs with
  | nil => exact latest
  | cons a rest ih =>
    cases a with
    | access offset size direction payload =>
      refine ih (show _ = (pairs ++ []).rtake logDepth from ?_)
      rw [(accessed s offset size direction payload).exchanges, latest, List.append_nil]
    | setResponder responder =>
      refine ih (show _ = (pairs ++ []).rtake logDepth from ?_)
      rw [List.append_nil]
      exact latest
    | takeExchanges => exact ih (List.rtake_nil logDepth).symm
    | advance nanos =>
      refine ih (show _ = (pairs ++ s.completedBy (.advance nanos)).rtake logDepth from ?_)
      show (s.advance nanos).1.exchanges = _
      cases updated s nanos with
      | idle free same => rw [same, completedBy_of_free free, List.append_nil, latest]
      | completes flying answer free data status others log =>
        rw [log, completedBy_of_flying flying data, latest, logExchange_rtake]

/-- What has been sent is what has been exchanged and what is in flight. -/
theorem completedBy_append_inFlight (h : s.Sound) {a : Action}
    (waits : s.Waits (s.operationsOf a)) :
    (s.completedBy a).map Prod.fst ++ (s.act a).inFlight.toList =
      s.inFlight.toList ++ s.sentBy a := by
  cases a with
  | access offset size direction payload =>
    exact (accessed s offset size direction payload).inFlight h waits
  | setResponder responder => exact (List.append_nil _).symm
  | takeExchanges => exact (List.append_nil _).symm
  | advance nanos =>
    show _ ++ (s.advance nanos).1.inFlight.toList = _
    cases updated s nanos with
    | idle free same => simp [completedBy_of_free free, same, free, sentBy, operationsOf]
    | completes flying answer free data =>
      simp [completedBy_of_flying flying data, flying, free, sentBy, operationsOf]

theorem sent_after (h : s.Sound) {actions : List Action} (waits : s.WaitsAlong actions) :
    (s.along completedBy actions).map Prod.fst ++ (s.after actions).inFlight.toList =
      s.inFlight.toList ++ s.along sentBy actions := by
  induction actions generalizing s with
  | nil => simp [along, after]
  | cons a rest ih =>
    calc ((s.completedBy a) ++ (s.act a).along completedBy rest).map Prod.fst ++
          ((s.act a).after rest).inFlight.toList
      _ = (s.completedBy a).map Prod.fst ++
          ((s.act a).inFlight.toList ++ (s.act a).along sentBy rest) := by
          rw [List.map_append, List.append_assoc, ih (h.act a) waits.2]
      _ = s.inFlight.toList ++ (s.sentBy a ++ (s.act a).along sentBy rest) := by
          rw [← List.append_assoc, completedBy_append_inFlight h waits.1, List.append_assoc]

end

-- ---------------------------------------------------------------------------
-- The contract
-- ---------------------------------------------------------------------------

structure TransferContract (actions : List Action) (s : Spi) : Prop where
  busy : s.busy = s.inFlight.isSome
  ready : s.ready = s.inFlight.isNone
  updates : ∀ nanos, Updated s (s.advance nanos).1 (s.advance nanos).2
  /-- As long as no other slave is attached, this one is asked for each byte once, in order. -/
  answered : ∀ more, (∀ a ∈ more, attaches a = false) →
    asked s.responder ((s.along completedBy more).map Prod.fst) =
      ((s.along completedBy more).map Prod.snd, (s.after more).responder)
  log : s.exchanges = (fresh.sinceTaken [] actions).rtake logDepth
  sent : fresh.WaitsAlong actions →
    (fresh.along completedBy actions).map Prod.fst ++ s.inFlight.toList = fresh.along sentBy actions
  sends : ∀ offset size payload, s.sentBy (.access offset size .write payload) =
    (pieces offset size).filterMap (s.lowByte? offset payload)
  ignored : s.enabled = false → ∀ word, perform s (.write dr word) = s
  ignores : s.enabled = false → ∀ offset size payload, (∀ k < size.bytes, ∀ i,
      layout.indexOf? (wordOffset (offset + UInt64.ofNat k)) = some i → i = dr) →
    s.act (.access offset size .write payload) = s

/-- The transfers of an SPI master, from reset through any actions. -/
theorem transferContract_after (actions : List Action) :
    TransferContract actions (fresh.after actions) where
  busy := (sound_fresh.after actions).busy
  ready := (sound_fresh.after actions).ready
  updates := updated _
  answered _ := asked_after
  log := exchanges_after (List.rtake_nil logDepth).symm actions
  sent waits := sent_after sound_fresh waits
  sends := sentBy_write _
  ignored := commit_dr_of_disabled
  ignores disabled _ _ payload only := access_of_disabled disabled only payload

end BoardSim.Spi
