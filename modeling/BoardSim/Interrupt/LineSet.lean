/-!
# Sets of interrupt lines

One bit per line, packed 32 to a bank. `LineSet.has` is what a set means: `has_insert` and
`has_erase` say how the two operations on single lines change it.
-/

namespace BoardSim

structure LineSet (banks : Nat) where
  words : Vector UInt32 banks
deriving DecidableEq

namespace LineSet

variable {banks : Nat}

def empty : LineSet banks := ⟨.replicate _ 0⟩

def bankOf (line : UInt32) : Nat := (line / 32).toNat

def bitOf (line : UInt32) : UInt32 := 1 <<< (line % 32)

/-- The word of a bank; zero beyond the last one. -/
def bank (s : LineSet banks) (n : Nat) : UInt32 := (s.words[n]?).getD 0

def setMask (s : LineSet banks) (n : Nat) (mask : UInt32) : LineSet banks :=
  ⟨s.words.setIfInBounds n (s.bank n ||| mask)⟩

def clearMask (s : LineSet banks) (n : Nat) (mask : UInt32) : LineSet banks :=
  ⟨s.words.setIfInBounds n (s.bank n &&& ~~~mask)⟩

def has (s : LineSet banks) (line : UInt32) : Bool := s.bank (bankOf line) &&& bitOf line != 0

/-- A line beyond the last bank is ignored. -/
def insert (s : LineSet banks) (line : UInt32) : LineSet banks :=
  s.setMask (bankOf line) (bitOf line)

def erase (s : LineSet banks) (line : UInt32) : LineSet banks :=
  s.clearMask (bankOf line) (bitOf line)

-- ---------------------------------------------------------------------------
-- Banks
-- ---------------------------------------------------------------------------

theorem bank_of_le (s : LineSet banks) {n : Nat} (h : banks ≤ n) : s.bank n = 0 := by
  simp [bank, h]

theorem bank_setIfInBounds (s : LineSet banks) (n m : Nat) (word : UInt32) :
    bank ⟨s.words.setIfInBounds n word⟩ m = if m = n ∧ n < banks then word else s.bank m := by
  by_cases h : m = n
  · subst h
    by_cases hm : m < banks <;> simp [bank, hm]
  · simp [bank, h, Vector.getElem?_setIfInBounds_ne (Ne.symm h)]

theorem bank_setMask (s : LineSet banks) (n m : Nat) (mask : UInt32) :
    (s.setMask n mask).bank m = if m = n ∧ n < banks then s.bank n ||| mask else s.bank m :=
  s.bank_setIfInBounds n m _

theorem bank_clearMask (s : LineSet banks) (n m : Nat) (mask : UInt32) :
    (s.clearMask n mask).bank m = if m = n ∧ n < banks then s.bank n &&& ~~~mask else s.bank m :=
  s.bank_setIfInBounds n m _

-- ---------------------------------------------------------------------------
-- Single lines
-- ---------------------------------------------------------------------------

/-- A line is told by its bank and its place within the bank. -/
theorem eq_of_bankOf {a b : UInt32} (hb : bankOf a = bankOf b)
    (hp : a.toNat % 32 = b.toNat % 32) : a = b := by
  apply UInt32.toNat_inj.1
  simp only [bankOf, UInt32.toNat_div] at hb
  simp at hb
  omega

theorem toBitVec_bitOf (line : UInt32) :
    (bitOf line).toBitVec = BitVec.twoPow 32 (line.toNat % 32) := by
  simp [bitOf, BitVec.twoPow]

/-- A word has the bit of a line exactly if it has a one at the line's place. -/
theorem and_bitOf (word line : UInt32) :
    (word &&& bitOf line != 0) = word.toBitVec.getLsbD (line.toNat % 32) := by
  have h : line.toNat % 32 < 32 := Nat.mod_lt _ (by decide)
  have e : (word &&& bitOf line).toBitVec.getLsbD (line.toNat % 32) =
      word.toBitVec.getLsbD (line.toNat % 32) := by
    simp [toBitVec_bitOf, h]
  cases hb : word.toBitVec.getLsbD (line.toNat % 32)
  · have : word &&& bitOf line = 0 := by
      apply UInt32.eq_of_toBitVec_eq
      simp [toBitVec_bitOf, BitVec.and_twoPow, hb]
    simp [this]
  · have : word &&& bitOf line ≠ 0 := by
      intro zero
      rw [zero, hb] at e
      simp at e
    simp [this]

theorem has_of_le (s : LineSet banks) {line : UInt32} (h : banks ≤ bankOf line) :
    s.has line = false := by
  simp [has, s.bank_of_le h]

theorem has_insert (s : LineSet banks) (line other : UInt32) :
    (s.insert line).has other = (s.has other || decide (other = line ∧ bankOf line < banks)) := by
  have hl : line.toNat % 32 < 32 := Nat.mod_lt _ (by decide)
  simp only [has, insert, bank_setMask]
  by_cases e : other = line
  · subst e
    split
    · next h => simp [and_bitOf, toBitVec_bitOf, hl, h.2]
    · next h =>
      have : ¬ bankOf other < banks := fun hb => h ⟨rfl, hb⟩
      simp [this]
  · split
    · next h =>
      have : ¬ line.toNat % 32 = other.toNat % 32 := fun hp => e (eq_of_bankOf h.1 hp.symm)
      simp [and_bitOf, toBitVec_bitOf, this, e, h.1]
    · simp [e]

theorem has_erase (s : LineSet banks) (line other : UInt32) :
    (s.erase line).has other = (s.has other && decide (other ≠ line)) := by
  have hl : line.toNat % 32 < 32 := Nat.mod_lt _ (by decide)
  have ho : other.toNat % 32 < 32 := Nat.mod_lt _ (by decide)
  simp only [has, erase, bank_clearMask]
  by_cases e : other = line
  · subst e
    split
    · simp [and_bitOf, toBitVec_bitOf, hl]
    · next h =>
      have : banks ≤ bankOf other := by simpa using h
      simp [s.bank_of_le this]
  · split
    · next h =>
      have : ¬ other.toNat % 32 = line.toNat % 32 := fun hp => e (eq_of_bankOf h.1 hp)
      simp [and_bitOf, toBitVec_bitOf, this, e, h.1, ho]
    · simp [e]

theorem has_empty (line : UInt32) : (empty : LineSet banks).has line = false := by
  have : (empty : LineSet banks).bank (bankOf line) = 0 := by
    simp only [bank, empty]
    by_cases h : bankOf line < banks <;> simp [h]
  simp [has, this]

end LineSet

end BoardSim
