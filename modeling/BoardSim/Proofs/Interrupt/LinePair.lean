import Mathlib.Algebra.Order.Floor.Div
import Mathlib.Data.Finset.Sort
import BoardSim.Proofs.Interrupt.Event
import BoardSim.Proofs.Interrupt.Scan

/-!
# The controller as a pair of line sets

What an interrupt controller holds is two sets of line numbers. Each of its calls is one short rule
about these sets (`LinePair.answer`), and `pair_answer` says that the packed controller follows it.
From any state, taking lines one by one until there is none and acknowledging the ready lines in
turn deliver the same lines and leave the same state (`drain_eq`).
-/

namespace BoardSim

namespace LineSet

variable {banks : Nat}

def toFinset (s : LineSet banks) : Finset ℕ :=
  (Finset.range (banks * 32)).filter fun n => s.has (UInt32.ofNat n)

theorem lt_of_has {s : LineSet banks} {line : UInt32} (h : s.has line = true) :
    bankOf line < banks := by
  refine Nat.lt_of_not_le fun out => ?_
  rw [s.has_of_le out] at h
  cases h

theorem insert_of_le (s : LineSet banks) {line : UInt32} (h : banks ≤ bankOf line) :
    s.insert line = s :=
  congrArg mk (Vector.setIfInBounds_eq_of_size_le h)

theorem erase_of_le (s : LineSet banks) {line : UInt32} (h : banks ≤ bankOf line) :
    s.erase line = s :=
  congrArg mk (Vector.setIfInBounds_eq_of_size_le h)

theorem bankOf_lt_iff (line : UInt32) : bankOf line < banks ↔ line.toNat < banks * 32 := by
  rw [InterruptController.bankOf_eq]
  omega

theorem mem_toFinset {s : LineSet banks} {line : UInt32} :
    line.toNat ∈ s.toFinset ↔ s.has line = true := by
  rw [toFinset, Finset.mem_filter, Finset.mem_range, UInt32.ofNat_toNat]
  exact ⟨And.right, fun h => ⟨(bankOf_lt_iff line).1 (lt_of_has h), h⟩⟩

theorem toFinset_subset (s : LineSet banks) : s.toFinset ⊆ Finset.range (banks * 32) :=
  Finset.filter_subset _ _

theorem toFinset_empty : (empty : LineSet banks).toFinset = ∅ := by
  refine Finset.filter_eq_empty_iff.2 fun n _ => ?_
  simp [has_empty]

section
variable (bound : banks * 32 ≤ 4294967296)
include bound

/-- A set of line numbers is told by the lines in it. -/
theorem toFinset_eq {s : LineSet banks} {t : Finset ℕ} (within : t ⊆ Finset.range (banks * 32))
    (h : ∀ line : UInt32, s.has line = true ↔ line.toNat ∈ t) : s.toFinset = t := by
  ext n
  by_cases inside : n < banks * 32
  · -- below the bound every number is that of a line
    obtain ⟨line, rfl⟩ : ∃ line : UInt32, line.toNat = n :=
      ⟨UInt32.ofNat n, by rw [UInt32.toNat_ofNat']; omega⟩
    rw [mem_toFinset, h]
  · constructor
    · intro mem
      exact absurd (Finset.mem_range.1 (s.toFinset_subset mem)) inside
    · intro mem
      exact absurd (Finset.mem_range.1 (within mem)) inside

theorem toFinset_insert (s : LineSet banks) (line : UInt32) :
    (s.insert line).toFinset =
      if line.toNat < banks * 32 then Insert.insert line.toNat s.toFinset else s.toFinset := by
  split
  · next inside =>
    refine toFinset_eq bound ?_ fun other => ?_
    · exact Finset.insert_subset (Finset.mem_range.2 inside) s.toFinset_subset
    · rw [has_insert, Finset.mem_insert, mem_toFinset, UInt32.toNat_inj]
      simp [(bankOf_lt_iff line).2 inside, or_comm]
  · next outside =>
    refine toFinset_eq bound s.toFinset_subset fun other => ?_
    rw [has_insert, mem_toFinset]
    simp [mt (bankOf_lt_iff line).1 outside]

theorem toFinset_erase (s : LineSet banks) (line : UInt32) :
    (s.erase line).toFinset = s.toFinset.erase line.toNat := by
  refine toFinset_eq bound ?_ fun other => ?_
  · exact (Finset.erase_subset _ _).trans s.toFinset_subset
  · rw [has_erase, Finset.mem_erase, mem_toFinset]
    simp [UInt32.toNat_inj, and_comm]

end

theorem toFinset_inj {a b : LineSet banks} (bound : banks * 32 < 4294967296)
    (h : a.toFinset = b.toFinset) : a = b := by
  refine ext_has bound fun line => Bool.eq_iff_iff.2 ?_
  rw [← mem_toFinset, h, mem_toFinset]

end LineSet

@[ext]
structure LinePair where
  enabled : Finset ℕ
  pending : Finset ℕ

inductive LineCall where
  | request (line : UInt32)
  | setEnabled (line : UInt32) (on : Bool)
  | clearPending (line : UInt32)
  | next
  | acknowledge (line : UInt32)
deriving DecidableEq

inductive LineReply where
  | done
  | flag (answer : Bool)
  | line (found : Option ℕ)
deriving DecidableEq

def LineCall.run {α : Type} (answer : α → LineCall → LineReply × α) (s : α) :
    List LineCall → List LineReply × α
  | [] => ([], s)
  | call :: rest =>
    let (reply, s) := answer s call
    let (replies, s) := run answer s rest
    (reply :: replies, s)

namespace LinePair

def ready (s : LinePair) : Finset ℕ := s.enabled ∩ s.pending

def answer (count : ℕ) (s : LinePair) : LineCall → LineReply × LinePair
  | .request line =>
    (.flag (line.toNat ∈ s.enabled),
      if line.toNat < count then { s with pending := insert line.toNat s.pending } else s)
  | .setEnabled line true =>
    (.done, if line.toNat < count then { s with enabled := insert line.toNat s.enabled } else s)
  | .setEnabled line false => (.done, { s with enabled := s.enabled.erase line.toNat })
  | .clearPending line => (.done, { s with pending := s.pending.erase line.toNat })
  | .next =>
    if h : s.ready.Nonempty then
      (.line (some (s.ready.min' h)), { s with pending := s.pending.erase (s.ready.min' h) })
    else (.line none, s)
  | .acknowledge line =>
    (.flag (line.toNat ∈ s.ready),
      if line.toNat ∈ s.ready then { s with pending := s.pending.erase line.toNat } else s)

end LinePair

namespace InterruptController

def answer (c : InterruptController) : LineCall → LineReply × InterruptController
  | .request line => (c.request line).map .flag id
  | .setEnabled line on => (.done, c.setEnabled line on)
  | .clearPending line => (.done, c.clearPending line)
  | .next =>
    match c.next? with
    | some (line, c) => (.line (some line.toNat), c)
    | none => (.line none, c)
  | .acknowledge line => (c.acknowledge line).map .flag id

def pair (c : InterruptController) : LinePair := ⟨c.enabled.toFinset, c.pending.toFinset⟩

theorem banks_mul_le (c : InterruptController) : c.banks * 32 ≤ 4096 := c.banks_le

-- ---------------------------------------------------------------------------
-- The sets of a controller
-- ---------------------------------------------------------------------------

theorem mem_enabled {c : InterruptController} {line : UInt32} :
    line.toNat ∈ c.pair.enabled ↔ c.isEnabled line = true :=
  LineSet.mem_toFinset

theorem mem_ready {c : InterruptController} {line : UInt32} :
    line.toNat ∈ c.pair.ready ↔ c.isReady line = true := by
  rw [LinePair.ready, Finset.mem_inter, isReady, Bool.and_eq_true]
  exact and_congr LineSet.mem_toFinset LineSet.mem_toFinset

theorem pair_subset (c : InterruptController) :
    c.pair.enabled ⊆ Finset.range c.lineCount.toNat ∧
      c.pair.pending ⊆ Finset.range c.lineCount.toNat := by
  rw [toNat_lineCount]
  exact ⟨c.enabled.toFinset_subset, c.pending.toFinset_subset⟩

theorem eq_of_pair {c d : InterruptController} (banks : d.banks = c.banks)
    (same : d.pair = c.pair) : d = c := by
  obtain ⟨n, enabled, pending, _, le⟩ := c
  obtain ⟨m, enabled', pending', _, _⟩ := d
  obtain rfl : m = n := banks
  have bound : m * 32 < 4294967296 := Nat.lt_of_le_of_lt le (by decide)
  obtain rfl := LineSet.toFinset_inj bound (congrArg LinePair.enabled same)
  obtain rfl := LineSet.toFinset_inj bound (congrArg LinePair.pending same)
  rfl

theorem ready_eq (c : InterruptController) :
    c.pair.ready = (c.readyLines.map UInt32.toNat).toFinset := by
  ext n
  rw [List.mem_toFinset, List.mem_map]
  constructor
  · intro mem
    have inside := Finset.mem_range.1 (c.pair_subset.1 (Finset.mem_inter.1 mem).1)
    have number : (UInt32.ofNat n).toNat = n :=
      UInt32.toNat_ofNat_of_lt' (inside.trans c.lineCount.toNat_lt)
    exact ⟨_, mem_readyLines.2 (mem_ready.1 (number.symm ▸ mem)), number⟩
  · rintro ⟨line, mem, rfl⟩
    exact mem_ready.2 (mem_readyLines.1 mem)

theorem pairwise_numbers (c : InterruptController) :
    (c.readyLines.map UInt32.toNat).Pairwise (· < ·) :=
  List.pairwise_map.2 c.pairwise_readyLines

theorem numbers_eq_sort (c : InterruptController) :
    c.readyLines.map UInt32.toNat = c.pair.ready.sort := by
  have nodup : (c.readyLines.map UInt32.toNat).Nodup := c.pairwise_numbers.imp Nat.ne_of_lt
  rw [ready_eq]
  exact ((List.toFinset_sort (· ≤ ·) nodup).2 (c.pairwise_numbers.imp Nat.le_of_lt)).symm

theorem min'_ready {c : InterruptController} {line : UInt32} {rest : List UInt32}
    (h : c.readyLines = line :: rest) (nonempty : c.pair.ready.Nonempty) :
    c.pair.ready.min' nonempty = line.toNat := by
  have ascending := c.pairwise_numbers
  rw [h, List.map_cons, List.pairwise_cons] at ascending
  rw [Finset.min'_eq_iff]
  refine ⟨?_, fun n mem => ?_⟩
  · rw [mem_ready, ← mem_readyLines, h]
    exact List.mem_cons_self
  · rw [ready_eq, h, List.mem_toFinset, List.map_cons, List.mem_cons] at mem
    rcases mem with rfl | later
    · exact le_rfl
    · exact (ascending.1 n later).le

-- ---------------------------------------------------------------------------
-- One call
-- ---------------------------------------------------------------------------

theorem pair_latch (c : InterruptController) (line : UInt32) :
    (c.latch line).pair =
      if line.toNat < c.lineCount.toNat then
        { c.pair with pending := insert line.toNat c.pair.pending }
      else c.pair := by
  have inserted := LineSet.toFinset_insert (c.banks_mul_le.trans (by decide)) c.pending line
  rw [toNat_lineCount]
  split <;> simp_all [pair, latch]

theorem pair_setEnabled_true (c : InterruptController) (line : UInt32) :
    (c.setEnabled line true).pair =
      if line.toNat < c.lineCount.toNat then
        { c.pair with enabled := insert line.toNat c.pair.enabled }
      else c.pair := by
  have inserted := LineSet.toFinset_insert (c.banks_mul_le.trans (by decide)) c.enabled line
  rw [toNat_lineCount]
  split <;> simp_all [pair, setEnabled]

theorem pair_setEnabled_false (c : InterruptController) (line : UInt32) :
    (c.setEnabled line false).pair =
      { c.pair with enabled := c.pair.enabled.erase line.toNat } := by
  have erased := LineSet.toFinset_erase (c.banks_mul_le.trans (by decide)) c.enabled line
  simp [pair, setEnabled, erased]

theorem pair_clearPending (c : InterruptController) (line : UInt32) :
    (c.clearPending line).pair = { c.pair with pending := c.pair.pending.erase line.toNat } := by
  have erased := LineSet.toFinset_erase (c.banks_mul_le.trans (by decide)) c.pending line
  simp [pair, clearPending, erased]

theorem next?_of_nil {c : InterruptController} (h : c.readyLines = []) : c.next? = none := by
  rw [next?_eq_head?, h]
  rfl

theorem next?_of_cons {c : InterruptController} {line : UInt32} {rest : List UInt32}
    (h : c.readyLines = line :: rest) : c.next? = some (line, c.clearPending line) := by
  rw [next?_eq_head?, h]
  rfl

/-- A call changes the sets by its rule and gets the reply that the rule gives. -/
theorem pair_answer (c : InterruptController) (call : LineCall) :
    c.pair.answer c.lineCount.toNat call = ((c.answer call).1, (c.answer call).2.pair) := by
  cases call with
  | request line =>
    have enabled : decide (line.toNat ∈ c.pair.enabled) = c.isEnabled line :=
      Bool.eq_iff_iff.2 (decide_eq_true_iff.trans mem_enabled)
    rw [LinePair.answer, enabled, ← pair_latch]
    rfl
  | setEnabled line on =>
    cases on with
    | true => rw [LinePair.answer, answer, pair_setEnabled_true]
    | false => rw [LinePair.answer, answer, pair_setEnabled_false]
  | clearPending line => rw [LinePair.answer, answer, pair_clearPending]
  | next =>
    cases h : c.readyLines with
    | nil =>
      have none : ¬c.pair.ready.Nonempty := by
        rw [ready_eq, h]
        simp
      simp only [LinePair.answer, answer, next?_of_nil h, dif_neg none]
    | cons line rest =>
      have some : c.pair.ready.Nonempty := by
        rw [ready_eq, h]
        simp
      simp only [LinePair.answer, answer, next?_of_cons h, dif_pos some, min'_ready h some,
        pair_clearPending]
  | acknowledge line =>
    have ready : decide (line.toNat ∈ c.pair.ready) = (c.acknowledge line).1 := by
      rw [fst_acknowledge]
      exact Bool.eq_iff_iff.2 (decide_eq_true_iff.trans mem_ready)
    rw [LinePair.answer, ready, answer]
    refine Prod.ext rfl ?_
    show _ = (c.acknowledge line).2.pair
    by_cases h : c.isReady line = true
    · rw [if_pos (mem_ready.2 h), snd_acknowledge_of_ready h, pair_clearPending]
    · rw [if_neg (mt mem_ready.1 h), snd_acknowledge_of_not_ready (Bool.eq_false_iff.2 h)]

theorem lineCount_answer (c : InterruptController) (call : LineCall) :
    (c.answer call).2.lineCount = c.lineCount := by
  cases call with
  | next =>
    cases h : c.readyLines with
    | nil => simp only [answer, next?_of_nil h]
    | cons line rest =>
      simp only [answer, next?_of_cons h]
      rfl
  | acknowledge line =>
    show (c.acknowledge line).2.lineCount = c.lineCount
    unfold acknowledge
    split <;> rfl
  | _ => rfl

/-- Any calls at all get the replies that the rules give and lead to the sets that they give. -/
theorem pair_run (c : InterruptController) (calls : List LineCall) :
    LineCall.run (LinePair.answer c.lineCount.toNat) c.pair calls =
      ((LineCall.run answer c calls).1, (LineCall.run answer c calls).2.pair) := by
  induction calls generalizing c with
  | nil => rfl
  | cons call rest ih =>
    have later := ih (c.answer call).2
    rw [lineCount_answer] at later
    simp only [LineCall.run, pair_answer, later]

theorem lineCount_run (c : InterruptController) (calls : List LineCall) :
    (LineCall.run answer c calls).2.lineCount = c.lineCount := by
  induction calls generalizing c with
  | nil => rfl
  | cons call rest ih => exact (ih (c.answer call).2).trans (c.lineCount_answer call)

/-- No call does anything with a line that the controller does not have. -/
theorem answer_of_lineCount_le {c : InterruptController} {line : UInt32}
    (outside : c.lineCount ≤ line) :
    c.request line = (false, c) ∧ (∀ on, c.setEnabled line on = c) ∧ c.clearPending line = c ∧
      c.acknowledge line = (false, c) := by
  have beyond : c.banks ≤ LineSet.bankOf line :=
    Nat.not_lt.1 (mt (c.bankOf_lt_banks line).1 (UInt32.not_lt.2 outside))
  have disabled : c.isEnabled line = false := c.enabled.has_of_le beyond
  refine ⟨?_, fun on => ?_, ?_, ?_⟩
  · rw [request, disabled, latch, LineSet.insert_of_le _ beyond]
  · cases on <;>
      simp [setEnabled, LineSet.insert_of_le _ beyond, LineSet.erase_of_le _ beyond]
  · rw [clearPending, LineSet.erase_of_le _ beyond]
  · simp [acknowledge, disabled]

-- ---------------------------------------------------------------------------
-- Delivery
-- ---------------------------------------------------------------------------

theorem readyLines_clearPending {c : InterruptController} {line : UInt32} {rest : List UInt32}
    (h : c.readyLines = line :: rest) : (c.clearPending line).readyLines = rest := by
  have ascending := c.pairwise_readyLines
  rw [h, List.pairwise_cons] at ascending
  refine List.Pairwise.eq_of_mem_iff (pairwise_readyLines _) ascending.2 fun other => ?_
  have before : c.isReady other = true ↔ other = line ∨ other ∈ rest := by
    rw [← mem_readyLines, h, List.mem_cons]
  have kept : other ∈ rest → other ≠ line := fun mem same =>
    UInt32.lt_irrefl line (same ▸ ascending.1 other mem)
  rw [mem_readyLines, isReady_eq_true, isPending_clearPending, isEnabled_clearPending,
    Bool.and_eq_true, decide_eq_true_iff, ← and_assoc, ← isReady_eq_true, before]
  constructor
  · rintro ⟨rfl | mem, different⟩
    · exact absurd rfl different
    · exact mem
  · intro mem
    exact ⟨.inr mem, kept mem⟩

theorem length_readyLines_lt {c d : InterruptController} {line : UInt32}
    (taken : c.next? = some (line, d)) : d.readyLines.length < c.readyLines.length := by
  cases lines : c.readyLines with
  | nil =>
    rw [next?_of_nil lines] at taken
    cases taken
  | cons first rest =>
    rw [next?_of_cons lines] at taken
    cases taken
    rw [readyLines_clearPending lines]
    exact Nat.lt_succ_self _

def drain (c : InterruptController) : List UInt32 × InterruptController :=
  match taken : c.next? with
  | none => ([], c)
  | some (line, d) =>
    have := length_readyLines_lt taken
    let (rest, d) := d.drain
    (line :: rest, d)
termination_by c.readyLines.length

theorem drain_of_nil {c : InterruptController} (h : c.readyLines = []) : c.drain = ([], c) := by
  rw [drain]
  split
  · rfl
  · next taken =>
    rw [next?_of_nil h] at taken
    cases taken

theorem drain_of_cons {c : InterruptController} {line : UInt32} {rest : List UInt32}
    (h : c.readyLines = line :: rest) :
    c.drain = (line :: (c.clearPending line).drain.1, (c.clearPending line).drain.2) := by
  rw [drain]
  split
  · next taken =>
    rw [next?_of_cons h] at taken
    cases taken
  · next taken =>
    rw [next?_of_cons h] at taken
    cases taken
    rfl

theorem drain_eq (c : InterruptController) :
    c.drain = (c.readyLines, c.readyLines.foldl clearPending c) := by
  -- on the ready lines: once the first has been taken, the rest are ready
  induction lines : c.readyLines generalizing c with
  | nil => rw [drain_of_nil lines, List.foldl_nil]
  | cons line rest ih =>
    rw [drain_of_cons lines, ih _ (readyLines_clearPending lines), List.foldl_cons]

/-- So does acknowledging the ready lines in turn: each is still ready when its turn comes. -/
theorem run_acknowledge (c : InterruptController) :
    LineCall.run answer c (c.readyLines.map LineCall.acknowledge) =
      (c.readyLines.map fun _ => .flag true, c.readyLines.foldl clearPending c) := by
  induction lines : c.readyLines generalizing c with
  | nil => rfl
  | cons line rest ih =>
    have ready : c.isReady line = true := by
      rw [← mem_readyLines, lines]
      exact List.mem_cons_self
    have first : c.answer (.acknowledge line) = (.flag true, c.clearPending line) :=
      Prod.ext (congrArg LineReply.flag ((c.fst_acknowledge line).trans ready))
        (snd_acknowledge_of_ready ready)
    simp only [List.map_cons, LineCall.run, first, ih _ (readyLines_clearPending lines)]
    rfl

theorem pair_foldl_clearPending (c : InterruptController) (lines : List UInt32) :
    (lines.foldl clearPending c).pair =
      ⟨c.pair.enabled, c.pair.pending \ (lines.map UInt32.toNat).toFinset⟩ := by
  induction lines generalizing c with
  | nil =>
    rw [List.foldl_nil, List.map_nil, List.toFinset_nil, Finset.sdiff_empty]
  | cons line rest ih =>
    rw [List.foldl_cons, ih, pair_clearPending, List.map_cons, List.toFinset_cons,
      Finset.sdiff_insert, Finset.erase_sdiff_comm]

theorem pair_drain (c : InterruptController) :
    c.drain.2.pair = ⟨c.pair.enabled, c.pair.pending \ c.pair.enabled⟩ := by
  rw [drain_eq, pair_foldl_clearPending, ← ready_eq, LinePair.ready, Finset.sdiff_inter_self_right]

-- ---------------------------------------------------------------------------
-- The contract
-- ---------------------------------------------------------------------------

structure PairContract (c : InterruptController) : Prop where
  within : c.pair.enabled ⊆ Finset.range c.lineCount.toNat ∧
    c.pair.pending ⊆ Finset.range c.lineCount.toNat
  determined : ∀ d : InterruptController, d.lineCount = c.lineCount → d.pair = c.pair → d = c
  replies : ∀ calls, (LineCall.run answer c calls).1 =
    (LineCall.run (LinePair.answer c.lineCount.toNat) c.pair calls).1
  states : ∀ calls, (LineCall.run answer c calls).2.lineCount = c.lineCount ∧
    (LineCall.run answer c calls).2.pair =
      (LineCall.run (LinePair.answer c.lineCount.toNat) c.pair calls).2
  outOfRange : ∀ line, c.lineCount ≤ line →
    c.request line = (false, c) ∧ (∀ on, c.setEnabled line on = c) ∧ c.clearPending line = c ∧
      c.acknowledge line = (false, c)
  ready : c.readyLines.map UInt32.toNat = (c.pair.enabled ∩ c.pair.pending).sort
  ascending : c.readyLines.Pairwise (· < ·)
  /-- Reading the banks bit by bit finds the same lines. -/
  scanned : c.scan = c.readyLines ∧ c.scanNext? = c.next?
  taken : c.drain.1 = c.readyLines
  acknowledged : LineCall.run answer c (c.readyLines.map LineCall.acknowledge) =
    (c.readyLines.map fun _ => .flag true, c.drain.2)
  left : c.drain.2.pair = ⟨c.pair.enabled, c.pair.pending \ c.pair.enabled⟩

theorem pairContract (c : InterruptController) : c.PairContract where
  within := c.pair_subset
  determined d count same := by
    refine eq_of_pair ?_ same
    have banks := congrArg UInt32.toNat count
    rw [toNat_lineCount, toNat_lineCount] at banks
    omega
  replies calls := by rw [pair_run]
  states calls := ⟨c.lineCount_run calls, by rw [pair_run]⟩
  outOfRange _ := answer_of_lineCount_le
  ready := c.numbers_eq_sort
  ascending := c.pairwise_readyLines
  scanned := ⟨c.scan_eq_readyLines, c.scanNext?_eq_next?⟩
  taken := by rw [drain_eq]
  acknowledged := by rw [run_acknowledge, drain_eq]
  left := c.pair_drain

theorem toNat_lineCount_withLines (lines : UInt32) :
    (withLines lines).lineCount.toNat = 32 * max 1 (min lines.toNat 4096 ⌈/⌉ 32) := by
  rw [toNat_lineCount, Nat.ceilDiv_eq_add_pred_div, Nat.mul_comm]
  rfl

theorem pair_withLines (lines : UInt32) : (withLines lines).pair = ⟨∅, ∅⟩ :=
  LinePair.ext LineSet.toFinset_empty LineSet.toFinset_empty

/-- A new controller is a pair of empty sets, and in every state a controller is a pair of sets. -/
theorem withLines_pairContract (lines : UInt32) :
    (withLines lines).lineCount.toNat = 32 * max 1 (min lines.toNat 4096 ⌈/⌉ 32) ∧
      (withLines lines).pair = ⟨∅, ∅⟩ ∧ ∀ c : InterruptController, c.PairContract :=
  ⟨toNat_lineCount_withLines lines, pair_withLines lines, pairContract⟩

end InterruptController

end BoardSim
