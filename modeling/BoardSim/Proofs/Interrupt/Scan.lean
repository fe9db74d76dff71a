import Mathlib.Data.List.Sort
import Mathlib.Data.Nat.Bitwise
import BoardSim.Interrupt.Controller

/-!
# Scanning the banks

The ready lines can be read out of the packed words directly: bank by bank, the lowest one of a
word first, until the word is used up. `scan_eq_readyLines` and `scanNext?_eq_next?` say that this
finds the lines that the controller delivers, in the same order.
-/

namespace BoardSim

namespace LineSet

/-- The place of the lowest one; the width of the word if there is none. -/
def lowest (word : UInt32) : Nat := word.toBitVec.ctz.toNat

def dropLowest (word : UInt32) : UInt32 := word &&& (word - 1)

theorem testBit_lowest {word : UInt32} (h : word ≠ 0) :
    word.toNat.testBit (lowest word) = true := by
  refine BitVec.getLsbD_true_ctz_of_ne_zero fun zero => h ?_
  exact UInt32.eq_of_toBitVec_eq zero

theorem testBit_of_lt_lowest {word : UInt32} {i : Nat} (h : i < lowest word) :
    word.toNat.testBit i = false :=
  BitVec.getLsbD_false_of_lt_ctz h

theorem lt_of_testBit {word : UInt32} {i : Nat} (h : word.toNat.testBit i = true) : i < 32 := by
  refine Nat.lt_of_not_le fun high => ?_
  have small : word.toNat < 2 ^ i :=
    Nat.lt_of_lt_of_le word.toNat_lt (Nat.pow_le_pow_right (by decide) high)
  rw [Nat.testBit_lt_two_pow small] at h
  cases h

theorem toNat_eq_lowest {word : UInt32} (h : word ≠ 0) :
    word.toNat =
      2 ^ (lowest word + 1) * (word.toNat / 2 ^ (lowest word + 1)) + 2 ^ lowest word := by
  have low : word.toNat % 2 ^ (lowest word + 1) = 2 ^ lowest word := by
    apply Nat.eq_of_testBit_eq
    intro i
    rw [Nat.testBit_mod_two_pow, Nat.testBit_two_pow]
    rcases Nat.lt_trichotomy i (lowest word) with below | same | above
    · simp [testBit_of_lt_lowest below, below.ne']
    · simp [same, testBit_lowest h]
    · simp [Nat.not_lt.2 (Nat.succ_le_of_lt above), above.ne]
  exact (congrArg (_ + ·) low ▸ Nat.div_add_mod word.toNat _).symm

/-- Taking one away turns the ones around up to the lowest and leaves those above it. -/
theorem testBit_sub_one {word : UInt32} (h : word ≠ 0) (i : Nat) :
    (word.toNat - 1).testBit i =
      if i ≤ lowest word then decide (i < lowest word) else word.toNat.testBit i := by
  have pos := Nat.two_pow_pos (lowest word)
  have small : 2 ^ lowest word < 2 ^ (lowest word + 1) := by
    rw [Nat.pow_succ]
    omega
  rw [toNat_eq_lowest h, Nat.add_sub_assoc pos, Nat.testBit_two_pow_mul_add _ (by omega),
    Nat.testBit_two_pow_mul_add _ small, Nat.testBit_two_pow_sub_one]
  by_cases above : lowest word < i
  · have outside : ¬i < lowest word + 1 := Nat.not_lt.2 above
    rw [if_neg outside, if_neg outside, if_neg (Nat.not_le.2 above)]
  · have inside : i < lowest word + 1 := Nat.lt_succ_of_le (Nat.not_lt.1 above)
    rw [if_pos inside, if_pos (Nat.not_lt.1 above)]

theorem toNat_sub_one {word : UInt32} (h : word ≠ 0) : (word - 1).toNat = word.toNat - 1 := by
  have pos : 1 ≤ word := by
    rw [UInt32.le_iff_toNat_le]
    exact Nat.one_le_iff_ne_zero.2 fun zero => h (UInt32.toNat_inj.1 zero)
  exact UInt32.toNat_sub_of_le _ _ pos

theorem testBit_dropLowest {word : UInt32} (h : word ≠ 0) (i : Nat) :
    (dropLowest word).toNat.testBit i = (word.toNat.testBit i && decide (i ≠ lowest word)) := by
  rw [dropLowest, UInt32.toNat_and, Nat.testBit_and, toNat_sub_one h, testBit_sub_one h]
  rcases Nat.lt_trichotomy i (lowest word) with below | rfl | above
  · simp [testBit_of_lt_lowest below]
  · simp
  · simp [Nat.not_le.2 above, above.ne']

theorem dropLowest_lt {word : UInt32} (h : word ≠ 0) : (dropLowest word).toNat < word.toNat := by
  have pos : word.toNat ≠ 0 := fun zero => h (UInt32.toNat_inj.1 zero)
  have le : (dropLowest word).toNat ≤ word.toNat - 1 := by
    rw [dropLowest, UInt32.toNat_and, toNat_sub_one h]
    exact Nat.and_le_right
  omega

def places (word : UInt32) : List Nat :=
  if word = 0 then [] else lowest word :: places (dropLowest word)
termination_by word.toNat
decreasing_by exact dropLowest_lt ‹_›

theorem mem_places {word : UInt32} {i : Nat} : i ∈ places word ↔ word.toNat.testBit i = true := by
  fun_induction places word with
  | case1 => simp
  | case2 word h ih =>
    rw [List.mem_cons, ih, testBit_dropLowest h]
    by_cases e : i = lowest word
    · simp [e, testBit_lowest h]
    · simp [e]

theorem pairwise_places (word : UInt32) : (places word).Pairwise (· < ·) := by
  fun_induction places word with
  | case1 => exact .nil
  | case2 word h ih =>
    refine .cons (fun i hi => ?_) ih
    rw [mem_places, testBit_dropLowest h, Bool.and_eq_true, decide_eq_true_iff] at hi
    refine Nat.lt_of_le_of_ne (Nat.le_of_not_lt fun below => ?_) (Ne.symm hi.2)
    rw [testBit_of_lt_lowest below] at hi
    cases hi.1

theorem head?_places (word : UInt32) :
    (places word).head? = if word = 0 then none else some (lowest word) := by
  rw [places]
  split <;> rfl

end LineSet

namespace InterruptController

def readyWord (c : InterruptController) (n : Nat) : UInt32 := c.enabled.bank n &&& c.pending.bank n

def lineAt (n i : Nat) : UInt32 := UInt32.ofNat (n * linesPerBank + i)

def scan (c : InterruptController) : List UInt32 :=
  (List.range c.banks).flatMap fun n => (LineSet.places (c.readyWord n)).map (lineAt n)

/-- The lowest one of the first bank that has any, taken out of the pending word. -/
def scanNext? (c : InterruptController) : Option (UInt32 × InterruptController) :=
  (List.range c.banks).findSome? fun n =>
    let ready := c.readyWord n
    if ready = 0 then none
    else
      let i := LineSet.lowest ready
      some (lineAt n i, { c with pending := c.pending.clearMask n (1 <<< UInt32.ofNat i) })

theorem toNat_lineAt (c : InterruptController) {n i : Nat} (hn : n < c.banks) (hi : i < 32) :
    (lineAt n i).toNat = n * 32 + i := by
  have := c.banks_le
  simp only [linesPerBank, maxLines] at this
  rw [lineAt, UInt32.toNat_ofNat', linesPerBank]
  omega

theorem bankOf_eq (line : UInt32) : LineSet.bankOf line = line.toNat / 32 := by
  rw [LineSet.bankOf, UInt32.toNat_div]
  rfl

theorem isReady_eq_testBit (c : InterruptController) (line : UInt32) :
    c.isReady line = (c.readyWord (line.toNat / 32)).toNat.testBit (line.toNat % 32) := by
  rw [isReady, isEnabled, isPending, LineSet.has, LineSet.has, LineSet.and_bitOf,
    LineSet.and_bitOf, bankOf_eq, readyWord, UInt32.toNat_and, Nat.testBit_and]
  rfl

theorem mem_scan {c : InterruptController} {line : UInt32} :
    line ∈ c.scan ↔ c.isReady line = true := by
  rw [isReady_eq_testBit, ← LineSet.mem_places, scan, List.mem_flatMap]
  constructor
  · rintro ⟨n, hn, h⟩
    obtain ⟨i, hi, rfl⟩ := List.mem_map.1 h
    have inside := LineSet.lt_of_testBit (LineSet.mem_places.1 hi)
    rw [c.toNat_lineAt (List.mem_range.1 hn) inside]
    rwa [show (n * 32 + i) / 32 = n by omega, show (n * 32 + i) % 32 = i by omega]
  · intro h
    have ready : c.isReady line = true := by
      rwa [isReady_eq_testBit, ← LineSet.mem_places]
    have inRange := lt_lineCount_of_isReady ready
    rw [UInt32.lt_iff_toNat_lt, toNat_lineCount] at inRange
    refine ⟨line.toNat / 32, List.mem_range.2 (by omega), List.mem_map.2 ⟨_, h, ?_⟩⟩
    apply UInt32.toNat_inj.1
    rw [c.toNat_lineAt (by omega) (Nat.mod_lt _ (by decide))]
    omega

theorem pairwise_scan (c : InterruptController) : c.scan.Pairwise (· < ·) := by
  have ordered {n m i j : Nat} (hn : n < c.banks) (hm : m < c.banks) (hi : i < 32) (hj : j < 32)
      (lt : n * 32 + i < m * 32 + j) : lineAt n i < lineAt m j := by
    rwa [UInt32.lt_iff_toNat_lt, c.toNat_lineAt hn hi, c.toNat_lineAt hm hj]
  have place {n i : Nat} (hi : i ∈ LineSet.places (c.readyWord n)) : i < 32 :=
    LineSet.lt_of_testBit (LineSet.mem_places.1 hi)
  rw [scan, List.pairwise_flatMap]
  constructor
  · intro n hn
    rw [List.pairwise_map]
    refine (LineSet.pairwise_places _).imp_of_mem fun hi hj lt => ?_
    exact ordered (List.mem_range.1 hn) (List.mem_range.1 hn) (place hi) (place hj) (by omega)
  · refine List.pairwise_lt_range.imp_of_mem fun {n m} hn hm lt => ?_
    intro a ha b hb
    obtain ⟨i, hi, rfl⟩ := List.mem_map.1 ha
    obtain ⟨j, hj, rfl⟩ := List.mem_map.1 hb
    have := place hi
    exact ordered (List.mem_range.1 hn) (List.mem_range.1 hm) (place hi) (place hj) (by omega)

theorem scan_eq_readyLines (c : InterruptController) : c.scan = c.readyLines :=
  c.pairwise_scan.eq_of_mem_iff c.pairwise_readyLines fun _ => mem_scan.trans mem_readyLines.symm

theorem erase_lineAt {c : InterruptController} {n i : Nat} (hn : n < c.banks) (hi : i < 32) :
    c.pending.erase (lineAt n i) = c.pending.clearMask n (1 <<< UInt32.ofNat i) := by
  have number := c.toNat_lineAt hn hi
  have bank : LineSet.bankOf (lineAt n i) = n := by
    rw [bankOf_eq, number]
    omega
  have place : lineAt n i % 32 = UInt32.ofNat i := by
    apply UInt32.toNat_inj.1
    rw [UInt32.toNat_mod, number, UInt32.toNat_ofNat']
    simp only [UInt32.reduceToNat]
    omega
  rw [LineSet.erase, bank, LineSet.bitOf, place]

theorem scanNext?_eq_next? (c : InterruptController) : c.scanNext? = c.next? := by
  -- the first line of the scan is the lowest place of the first bank that has one
  rw [next?_eq_head?, ← scan_eq_readyLines, scan, List.head?_flatMap, List.map_findSome?,
    scanNext?, ← List.head?_filterMap, ← List.head?_filterMap]
  refine congrArg List.head? (List.filterMap_congr fun n hn => ?_)
  simp only [Function.comp_apply, List.head?_map, LineSet.head?_places]
  split
  · rfl
  · next ready =>
    have place := LineSet.lt_of_testBit (LineSet.testBit_lowest ready)
    simp only [Option.map_some, clearPending, erase_lineAt (List.mem_range.1 hn) place]

end InterruptController

end BoardSim
