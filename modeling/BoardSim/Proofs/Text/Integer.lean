import Mathlib.Data.List.Forall2
import Mathlib.Data.Nat.Digits.Defs
import BoardSim.Text.Integer

/-!
# Numbers written in a radix

A numeral is a row of digits, the highest first, and denotes what positional notation makes of
them. Reading accepts the numerals below the limit, bare or behind one plus sign, gives the number
they denote, and accepts nothing else (`unsigned_eq_ok_iff`). The digits of a number are a numeral
for it in either case and behind any number of zeros (`numeral_of_places`).
-/

namespace BoardSim.Text

-- ---------------------------------------------------------------------------
-- Notation
-- ---------------------------------------------------------------------------

def lowerDigits : List Char := "0123456789abcdefghijklmnopqrstuvwxyz".toList

def upperDigits : List Char := "0123456789ABCDEFGHIJKLMNOPQRSTUVWXYZ".toList

def IsDigit (radix : Nat) (c : Char) (d : Nat) : Prop :=
  d < radix ∧ (lowerDigits[d]? = some c ∨ upperDigits[d]? = some c)

instance (radix : Nat) (c : Char) (d : Nat) : Decidable (IsDigit radix c d) :=
  inferInstanceAs (Decidable (_ ∧ _))

def Numeral (radix : Nat) (text : List Char) (n : Nat) : Prop :=
  text ≠ [] ∧ ∃ values, List.Forall₂ (IsDigit radix) text values ∧
    n = Nat.ofDigits radix values.reverse

/-- A numeral by itself or behind a plus sign. -/
inductive Signed (radix : Nat) : List Char → Nat → Prop
  | bare {text : List Char} {n : Nat} (numeral : Numeral radix text n) : Signed radix text n
  | plus {digits : List Char} {n : Nat} (numeral : Numeral radix digits n) :
      Signed radix ('+' :: digits) n

section
variable {radix limit value n d : Nat} {c : Char} {text : List Char}

-- ---------------------------------------------------------------------------
-- Digits
-- ---------------------------------------------------------------------------

/-- A row of digits, looked up by the codes of its characters. -/
theorem getElem?_eq_some_iff_code {row : List Char} {code : Nat → Nat}
    (codes : row.map Char.toNat = (List.range 36).map code) :
    row[d]? = some c ↔ d < 36 ∧ c.toNat = code d := by
  have there : row[d]?.map Char.toNat = ((List.range 36)[d]?).map code := by
    rw [← List.getElem?_map, codes, List.getElem?_map]
  constructor
  · intro found
    rw [found] at there
    by_cases inside : d < 36
    · rw [List.getElem?_range inside] at there
      exact ⟨inside, Option.some.inj there⟩
    · rw [List.getElem?_eq_none (by simpa using inside)] at there
      cases there
  · rintro ⟨inside, same⟩
    rw [List.getElem?_range inside] at there
    obtain ⟨a, found, code_a⟩ := Option.map_eq_some_iff.1 there
    rw [found, Char.toNat_inj.1 (code_a.trans same.symm)]

theorem isDigit_iff_code : IsDigit radix c d ↔ d < radix ∧ d < 36 ∧
    (c.toNat = (if d < 10 then d + 48 else d + 87) ∨
      c.toNat = (if d < 10 then d + 48 else d + 55)) := by
  have lower : lowerDigits.map Char.toNat =
      (List.range 36).map fun d => if d < 10 then d + 48 else d + 87 := by decide
  have upper : upperDigits.map Char.toNat =
      (List.range 36).map fun d => if d < 10 then d + 48 else d + 55 := by decide
  rw [IsDigit, getElem?_eq_some_iff_code lower, getElem?_eq_some_iff_code upper, ← and_or_left]

theorem char_le_iff {a b : Char} : a ≤ b ↔ a.toNat ≤ b.toNat :=
  Char.le_def.trans UInt32.le_iff_toNat_le

/-- The three ranges of `digit?` are the two rows. -/
theorem digit?_eq_some_iff : digit? radix c = some d ↔ IsDigit radix c d := by
  have codes : ('0'.toNat = 48 ∧ '9'.toNat = 57) ∧ ('a'.toNat = 97 ∧ 'z'.toNat = 122) ∧
      ('A'.toNat = 65 ∧ 'Z'.toNat = 90) := by decide
  obtain ⟨⟨zero, nine⟩, ⟨a, z⟩, bigA, bigZ⟩ := codes
  rw [isDigit_iff_code]
  simp only [digit?, char_le_iff, zero, nine, a, z, bigA, bigZ]
  grind

theorem IsDigit.mem (h : IsDigit radix c d) : c ∈ lowerDigits ++ upperDigits :=
  List.mem_append.2 (h.2.imp List.mem_of_getElem? List.mem_of_getElem?)

theorem plus_not_isDigit : ¬IsDigit radix '+' d := fun h =>
  absurd h.mem (by decide)

theorem Numeral.isDigit (h : Numeral radix text n) (mem : c ∈ text) : ∃ d, IsDigit radix c d := by
  obtain ⟨-, values, digits, -⟩ := h
  induction digits with
  | nil => exact nomatch mem
  | cons digit _ ih => exact (List.mem_cons.1 mem).elim (fun same => ⟨_, same ▸ digit⟩) ih

theorem Signed.eq_plus_or_isDigit (h : Signed radix text n) (mem : c ∈ text) :
    c = '+' ∨ ∃ d, IsDigit radix c d := by
  cases h with
  | bare numeral => exact .inr (numeral.isDigit mem)
  | plus numeral => exact (List.mem_cons.1 mem).imp_right numeral.isDigit

-- ---------------------------------------------------------------------------
-- Reading
-- ---------------------------------------------------------------------------

/-- Digits shifted in from the right, the highest first. -/
theorem ofDigits_reverse (values : List Nat) :
    Nat.ofDigits radix values.reverse = values.foldl (fun v d => d + radix * v) 0 := by
  rw [Nat.ofDigits_eq_foldr, List.foldr_reverse]
  rfl

theorem le_foldl (positive : 0 < radix) (values : List Nat) (value : Nat) :
    value ≤ values.foldl (fun v d => d + radix * v) value := by
  induction values generalizing value with
  | nil => exact Nat.le_refl _
  | cons d rest ih =>
    calc value ≤ radix * value := Nat.le_mul_of_pos_left value positive
      _ ≤ d + radix * value := Nat.le_add_left _ _
      _ ≤ _ := ih _

/-- The value only grows, so a result below the limit was below it all along. -/
theorem digitsFrom_eq_ok_iff (positive : 0 < radix) (small : value < limit) :
    digitsFrom radix limit value text = .ok n ↔ n < limit ∧ ∃ values,
      List.Forall₂ (IsDigit radix) text values ∧
        n = values.foldl (fun v d => d + radix * v) value := by
  induction text generalizing value with
  | nil =>
    constructor
    · rintro ⟨⟩
      exact ⟨small, [], .nil, rfl⟩
    · rintro ⟨-, values, digits, rfl⟩
      cases digits
      rfl
  | cons c rest ih =>
    cases read : digit? radix c with
    | none =>
      simp only [digitsFrom, read, reduceCtorEq, false_iff]
      rintro ⟨-, values, digits, -⟩
      obtain _ | ⟨digit, -⟩ := digits
      exact nomatch read.symm.trans (digit?_eq_some_iff.2 digit)
    | some d =>
      have next : value * radix + d = d + radix * value := by rw [Nat.mul_comm, Nat.add_comm]
      simp only [digitsFrom, read, next]
      split
      case isTrue below =>
        rw [ih below]
        refine and_congr_right fun _ => ⟨?_, ?_⟩
        · rintro ⟨values, digits, rfl⟩
          exact ⟨d :: values, .cons (digit?_eq_some_iff.1 read) digits, rfl⟩
        · rintro ⟨_, _ | ⟨digit, digits⟩, rfl⟩
          cases Option.some.inj (read.symm.trans (digit?_eq_some_iff.2 digit))
          exact ⟨_, digits, rfl⟩
      case isFalse large =>
        simp only [reduceCtorEq, false_iff]
        rintro ⟨below, _, _ | ⟨digit, digits⟩, rfl⟩
        cases Option.some.inj (read.symm.trans (digit?_eq_some_iff.2 digit))
        exact large (Nat.lt_of_le_of_lt (le_foldl positive _ _) below)

theorem digitsFrom_zero_eq_ok_iff (positive : 0 < radix) (room : 0 < limit)
    (filled : text ≠ []) :
    digitsFrom radix limit 0 text = .ok n ↔ Numeral radix text n ∧ n < limit := by
  simp only [digitsFrom_eq_ok_iff positive room, Numeral, ofDigits_reverse, filled, ne_eq,
    not_false_eq_true, true_and, and_comm]

theorem not_numeral_plus {digits : List Char} : ¬Numeral radix ('+' :: digits) n := by
  rintro ⟨-, _, _ | ⟨digit, -⟩, -⟩
  exact plus_not_isDigit digit

/-- A text that begins with a plus sign is a number exactly if the rest is a numeral. -/
theorem signed_plus_iff {digits : List Char} :
    Signed radix ('+' :: digits) n ↔ Numeral radix digits n := by
  constructor
  · rintro (numeral | numeral)
    · exact absurd numeral not_numeral_plus
    · exact numeral
  · exact .plus

theorem signed_iff (bare : ∀ digits, text ≠ '+' :: digits) :
    Signed radix text n ↔ Numeral radix text n := by
  constructor
  · rintro (numeral | _)
    · exact numeral
    · exact absurd rfl (bare _)
  · exact .bare

theorem unsigned_eq_ok_iff (positive : 0 < radix) (room : 0 < limit) :
    unsigned radix limit text = .ok n ↔ Signed radix text n ∧ n < limit := by
  fun_cases unsigned radix limit text with
  | case1 => simp [signed_iff, Numeral]
  | case2 => simp [signed_plus_iff, Numeral]
  | case3 digits more =>
    rw [signed_plus_iff]
    exact digitsFrom_zero_eq_ok_iff positive room fun h => more (by rw [h])
  | case4 digits filled _ bare =>
    rw [signed_iff bare]
    exact digitsFrom_zero_eq_ok_iff positive room filled

-- ---------------------------------------------------------------------------
-- Writing
-- ---------------------------------------------------------------------------

/-- The digits of a number, the highest first. Zero has one. -/
def places (radix n : Nat) : List Nat :=
  if n = 0 then [0] else (Nat.digits radix n).reverse

theorem places_ne_nil (radix n : Nat) : places radix n ≠ [] := by
  unfold places
  split
  case isTrue => exact List.cons_ne_nil _ _
  case isFalse positive =>
    exact List.reverse_ne_nil_iff.2 (Nat.digits_ne_nil_iff_ne_zero.2 positive)

theorem lt_of_mem_places (proper : 1 < radix) (mem : d ∈ places radix n) : d < radix := by
  unfold places at mem
  split at mem
  case isTrue => exact List.mem_singleton.1 mem ▸ Nat.zero_lt_of_lt proper
  case isFalse => exact Nat.digits_lt_base proper (List.mem_reverse.1 mem)

theorem ofDigits_places (zeros : Nat) :
    Nat.ofDigits radix (List.replicate zeros 0 ++ places radix n).reverse = n := by
  rw [List.reverse_append, List.reverse_replicate, Nat.ofDigits_append_replicate_zero, places]
  split
  case isTrue zero => exact Nat.ofDigits_singleton.trans zero.symm
  case isFalse => rw [List.reverse_reverse, Nat.ofDigits_digits]

theorem numeral_of_places {zeros : Nat} (digits : List.Forall₂ (IsDigit radix) text
    (List.replicate zeros 0 ++ places radix n)) : Numeral radix text n := by
  refine ⟨?_, _, digits, (ofDigits_places zeros).symm⟩
  rintro rfl
  have none_left := List.forall₂_nil_left_iff.1 digits
  exact places_ne_nil radix n (List.append_eq_nil_iff.1 none_left).2

def upperDigit (d : Nat) : Char := upperDigits.getD d '0'

theorem isDigit_upperDigit (known : radix ≤ 36) (below : d < radix) :
    IsDigit radix (upperDigit d) d := by
  have listed : d < upperDigits.length := Nat.lt_of_lt_of_le below known
  refine ⟨below, .inr ?_⟩
  rw [upperDigit, List.getD_eq_getElem?_getD, List.getElem?_eq_getElem listed, Option.getD_some]

theorem forall₂_upperDigit {values : List Nat} (known : radix ≤ 36)
    (below : ∀ d ∈ values, d < radix) :
    List.Forall₂ (IsDigit radix) (values.map upperDigit) values := by
  rw [List.forall₂_map_left_iff, List.forall₂_same]
  exact fun d mem => isDigit_upperDigit known (below d mem)

end

end BoardSim.Text
