import BoardSim.Interrupt.LineSet

/-!
# Interrupt controller

A set of enabled lines and a set of pending ones. Lines are delivered lowest number first; there
is no other priority and no preemption. `readyLines` lists what could be delivered now, `next?`
consumes its head and `acknowledge` consumes a given line.
-/

namespace BoardSim

namespace InterruptController

def linesPerBank : Nat := 32

def maxLines : Nat := 4096

end InterruptController

structure InterruptController where
  banks : Nat
  enabled : LineSet banks
  pending : LineSet banks
  banks_pos : 0 < banks
  banks_le : banks * InterruptController.linesPerBank ≤ InterruptController.maxLines

namespace InterruptController

/-- Banks for `lines` lines: whole banks, at least one, and no more than `maxLines` allows. -/
def banksFor (lines : UInt32) : Nat :=
  max 1 ((min lines.toNat maxLines + (linesPerBank - 1)) / linesPerBank)

/-- A controller with at least `lines` lines, all disabled and not pending. -/
def withLines (lines : UInt32) : InterruptController where
  banks := banksFor lines
  enabled := .empty
  pending := .empty
  banks_pos := by unfold banksFor; omega
  banks_le := by simp only [banksFor, linesPerBank, maxLines]; omega

def lineCount (c : InterruptController) : UInt32 := UInt32.ofNat (c.banks * linesPerBank)

theorem toNat_lineCount (c : InterruptController) : c.lineCount.toNat = c.banks * 32 := by
  have := c.banks_le
  simp only [linesPerBank, maxLines] at this
  simp only [lineCount, linesPerBank, UInt32.toNat_ofNat']
  omega

/-- The lines of the controller are those of its banks. -/
theorem bankOf_lt_banks (c : InterruptController) (line : UInt32) :
    LineSet.bankOf line < c.banks ↔ line < c.lineCount := by
  rw [UInt32.lt_iff_toNat_lt, toNat_lineCount]
  simp only [LineSet.bankOf, UInt32.toNat_div]
  simp
  omega

-- ---------------------------------------------------------------------------
-- Single lines
-- ---------------------------------------------------------------------------

def isEnabled (c : InterruptController) (line : UInt32) : Bool := c.enabled.has line

def isPending (c : InterruptController) (line : UInt32) : Bool := c.pending.has line

/-- Enable or disable a line; a line out of range is ignored. -/
def setEnabled (c : InterruptController) (line : UInt32) (on : Bool) : InterruptController :=
  { c with enabled := if on then c.enabled.insert line else c.enabled.erase line }

def clearPending (c : InterruptController) (line : UInt32) : InterruptController :=
  { c with pending := c.pending.erase line }

/-- Latch a line as pending; a line out of range is ignored. -/
def latch (c : InterruptController) (line : UInt32) : InterruptController :=
  { c with pending := c.pending.insert line }

def request (c : InterruptController) (line : UInt32) : Bool × InterruptController :=
  (c.isEnabled line, c.latch line)

theorem isEnabled_setEnabled (c : InterruptController) (line other : UInt32) (on : Bool) :
    (c.setEnabled line on).isEnabled other =
      if other = line ∧ line < c.lineCount then on else c.isEnabled other := by
  cases on
  · simp only [isEnabled, setEnabled, Bool.false_eq_true, if_false, LineSet.has_erase]
    by_cases e : other = line
    · subst e
      by_cases h : other < c.lineCount
      · simp [h]
      · simp [h, c.enabled.has_of_le (Nat.not_lt.1 (mt (c.bankOf_lt_banks other).1 h))]
    · simp [e]
  · simp only [isEnabled, setEnabled, if_true, LineSet.has_insert, bankOf_lt_banks]
    split
    · next h => simp [h]
    · next h => simp [h]

theorem isPending_setEnabled (c : InterruptController) (line other : UInt32) (on : Bool) :
    (c.setEnabled line on).isPending other = c.isPending other := rfl

theorem isPending_latch (c : InterruptController) (line other : UInt32) :
    (c.latch line).isPending other =
      (c.isPending other || decide (other = line ∧ line < c.lineCount)) := by
  simp only [isPending, latch, LineSet.has_insert, bankOf_lt_banks]

theorem isEnabled_latch (c : InterruptController) (line other : UInt32) :
    (c.latch line).isEnabled other = c.isEnabled other := rfl

theorem isPending_clearPending (c : InterruptController) (line other : UInt32) :
    (c.clearPending line).isPending other = (c.isPending other && decide (other ≠ line)) :=
  c.pending.has_erase line other

theorem isEnabled_clearPending (c : InterruptController) (line other : UInt32) :
    (c.clearPending line).isEnabled other = c.isEnabled other := rfl

-- ---------------------------------------------------------------------------
-- Delivery
-- ---------------------------------------------------------------------------

def isReady (c : InterruptController) (line : UInt32) : Bool := c.isEnabled line && c.isPending line

def lines (c : InterruptController) : List UInt32 :=
  (List.range (c.banks * linesPerBank)).map UInt32.ofNat

def readyLines (c : InterruptController) : List UInt32 := c.lines.filter c.isReady

theorem lt_lineCount_of_isReady {c : InterruptController} {line : UInt32}
    (h : c.isReady line = true) : line < c.lineCount := by
  rw [← bankOf_lt_banks]
  refine Nat.lt_of_not_le fun out => ?_
  simp [isReady, isEnabled, c.enabled.has_of_le out] at h

theorem mem_lines {c : InterruptController} {line : UInt32} :
    line ∈ c.lines ↔ line < c.lineCount := by
  rw [UInt32.lt_iff_toNat_lt, toNat_lineCount]
  simp only [lines, linesPerBank, List.mem_map, List.mem_range]
  constructor
  · rintro ⟨n, h, rfl⟩
    exact Nat.lt_of_le_of_lt (Nat.mod_le _ _) h
  · exact fun h => ⟨line.toNat, h, UInt32.ofNat_toNat⟩

theorem mem_readyLines {c : InterruptController} {line : UInt32} :
    line ∈ c.readyLines ↔ c.isReady line = true := by
  simp only [readyLines, List.mem_filter, mem_lines]
  exact ⟨And.right, fun h => ⟨lt_lineCount_of_isReady h, h⟩⟩

theorem pairwise_readyLines (c : InterruptController) : c.readyLines.Pairwise (· < ·) := by
  have bound := c.banks_le
  simp only [linesPerBank, maxLines] at bound
  refine List.Pairwise.filter _ (List.pairwise_map.2 ?_)
  refine List.Pairwise.imp_of_mem ?_ List.pairwise_lt_range
  intro a b ha hb h
  simp only [linesPerBank, List.mem_range] at ha hb
  rw [UInt32.lt_iff_toNat_lt, UInt32.toNat_ofNat', UInt32.toNat_ofNat']
  omega

/-- The first ready line, no longer pending. -/
def next? (c : InterruptController) : Option (UInt32 × InterruptController) :=
  (c.lines.find? c.isReady).map fun line => (line, c.clearPending line)

theorem next?_eq_head? (c : InterruptController) :
    c.next? = c.readyLines.head?.map fun line => (line, c.clearPending line) := by
  rw [readyLines, List.head?_filter, next?]

/-- Consume `line` if it is ready, and tell whether it was. -/
def acknowledge (c : InterruptController) (line : UInt32) : Bool × InterruptController :=
  if c.isEnabled line then (c.isPending line, c.clearPending line) else (false, c)

theorem fst_acknowledge (c : InterruptController) (line : UInt32) :
    (c.acknowledge line).1 = c.isReady line := by
  cases h : c.isEnabled line <;> simp [acknowledge, isReady, h]

end InterruptController

end BoardSim
