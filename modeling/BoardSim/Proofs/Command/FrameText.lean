import Mathlib.Data.List.TakeWhile
import BoardSim.Command.Value
import BoardSim.Proofs.Text.Integer

/-!
# The text of a frame

A frame is written as an identifier in hexadecimal, `#` and up to eight pairs of hexadecimal
digits. The reader accepts this form, but it reads each number on its own and so also takes a plus
sign in front of the identifier and in place of the first digit of a pair, and identifiers of
thirty to thirty-two bits, which lose their upper bits. Everything else it accepts becomes exactly
the frame that was written (`frameOf_textContract`).
-/

namespace BoardSim.Command

open Text (Numeral Signed)

-- ---------------------------------------------------------------------------
-- The form
-- ---------------------------------------------------------------------------

/-- Bytes of two characters each, written as `number` says. -/
inductive Pairs (number : List Char → Nat → Prop) : List Char → List UInt8 → Prop
  | nil : Pairs number [] []
  | cons {high low : Char} {rest : List Char} {byte : UInt8} {bytes : List UInt8}
      (first : number [high, low] byte.toNat) (others : Pairs number rest bytes) :
      Pairs number (high :: low :: rest) (byte :: bytes)

def marks (k : Nat) : List Char := (List.replicate k ['0', 'x']).flatten

/-- An identifier behind any number of `0x`, `#` and up to eight bytes, the numbers written as
`number` says. -/
inductive Form (number : List Char → Nat → Prop) : List Char → Nat → List UInt8 → Prop
  | intro (k : Nat) {digits data : List Char} {id : Nat} {bytes : List UInt8}
      (identifier : number digits id) (payload : Pairs number data bytes)
      (short : bytes.length ≤ 8) : Form number (marks k ++ digits ++ '#' :: data) id bytes

structure Carries (f : Can.Frame) (id : Nat) (extended : Bool) (bytes : List UInt8) : Prop where
  id : f.id.toNat = id
  extended : f.extended = extended
  remote : f.remote = false
  dlc : f.dlc.toNat = bytes.length
  data : f.data.toList = bytes ++ List.replicate (8 - bytes.length) 0

def Faithful (text : List Char) (f : Can.Frame) : Prop :=
  ∃ id bytes, Form (Numeral 16) text id bytes ∧ id < 2 ^ 29 ∧
    Carries f id (decide (0x7FF < id)) bytes

section
variable {number other : List Char → Nat → Prop} {text data digits : List Char} {id n : Nat}
  {bytes : List UInt8} {f g : Can.Frame} {c : Char}

namespace Pairs

theorem length (pairs : Pairs number data bytes) : data.length = 2 * bytes.length := by
  induction pairs with
  | nil => rfl
  | cons _ _ ih =>
    simp only [List.length_cons, ih]
    omega

theorem exists_of_mem (pairs : Pairs number data bytes) (mem : c ∈ data) :
    ∃ digits n, number digits n ∧ c ∈ digits := by
  induction pairs with
  | nil => exact nomatch mem
  | cons first _ ih =>
    obtain here | there := List.mem_append.1 (show c ∈ [_, _] ++ _ from mem)
    · exact ⟨_, _, first, here⟩
    · exact ih there

theorem imp (weaker : ∀ digits n, digits ⊆ data → number digits n → other digits n)
    (pairs : Pairs number data bytes) : Pairs other data bytes := by
  induction pairs with
  | nil => exact .nil
  | cons first _ ih =>
    refine .cons (weaker _ _ (by simp) first) (ih fun digits n inside => weaker digits n ?_)
    exact fun c mem => List.mem_cons_of_mem _ (List.mem_cons_of_mem _ (inside mem))

end Pairs

theorem Form.short (form : Form number text id bytes) : bytes.length ≤ 8 := by
  obtain ⟨-, -, -, short⟩ := form
  exact short

theorem Form.imp (weaker : ∀ digits n, digits ⊆ text → number digits n → other digits n)
    (form : Form number text id bytes) : Form other text id bytes := by
  obtain @⟨k, digits, data, _, _, identifier, payload, short⟩ := form
  refine .intro k (weaker _ _ ?_ identifier) (payload.imp fun _ _ inside => weaker _ _ ?_) short
  · exact fun c mem => by simp [mem]
  · exact fun c mem => by simp [inside mem]

-- ---------------------------------------------------------------------------
-- Marks
-- ---------------------------------------------------------------------------

theorem exists_stripMarks (text : List Char) : ∃ k, text = marks k ++ stripMarks text := by
  fun_induction stripMarks text with
  | case1 rest ih =>
    obtain ⟨k, same⟩ := ih
    refine ⟨k + 1, ?_⟩
    conv_lhs => rw [same]
    rfl
  | case2 => exact ⟨0, rfl⟩

theorem stripMarks_marks (k : Nat) (text : List Char) :
    stripMarks (marks k ++ text) = stripMarks text := by
  induction k with
  | zero => rfl
  | succ k ih => exact ih

theorem stripMarks_of_signed (signed : Signed 16 digits n) : stripMarks digits = digits := by
  fun_cases stripMarks digits with
  | case1 rest =>
    obtain same | ⟨d, digit⟩ := signed.eq_plus_or_isDigit (c := 'x') (by simp)
    · exact absurd same (by decide)
    · exact nomatch (show none = some d from Text.digit?_eq_some_iff.2 digit)
  | case2 => rfl

-- ---------------------------------------------------------------------------
-- The payload
-- ---------------------------------------------------------------------------

theorem bytesOfPairs_cons {high low : Char} {rest : List Char} :
    bytesOfPairs (high :: low :: rest) = .ok bytes ↔ ∃ byte others,
      Text.unsigned 16 256 [high, low] = .ok byte ∧ bytesOfPairs rest = .ok others ∧
        bytes = UInt8.ofNat byte :: others := by
  rw [bytesOfPairs]
  cases Text.unsigned 16 256 [high, low] with
  | error e => simp [bind, Except.bind]
  | ok byte => cases bytesOfPairs rest <;> simp [bind, Except.bind, pure, Except.pure, eq_comm]

theorem bytesOfPairs_eq_ok_iff (even : data.length % 2 = 0) :
    bytesOfPairs data = .ok bytes ↔ Pairs (Signed 16) data bytes := by
  induction data using bytesOfPairs.induct generalizing bytes with
  | case1 high low rest ih =>
    have rest_even : rest.length % 2 = 0 := by
      simp only [List.length_cons] at even
      omega
    rw [bytesOfPairs_cons]
    constructor
    · rintro ⟨byte, others, first, later, rfl⟩
      obtain ⟨signed, small⟩ := (Text.unsigned_eq_ok_iff (by decide) (by decide)).1 first
      refine .cons ?_ ((ih rest_even).1 later)
      rwa [UInt8.toNat_ofNat_of_lt' small]
    · rintro (_ | ⟨first, later⟩)
      rename_i byte others
      have read := (Text.unsigned_eq_ok_iff (by decide) (by decide)).2 ⟨first, byte.toNat_lt⟩
      exact ⟨byte.toNat, others, read, (ih rest_even).2 later, by rw [UInt8.ofNat_toNat]⟩
  | case2 data short =>
    obtain rfl : data = [] := by
      match data with
      | [] => rfl
      | [c] => exact nomatch even
      | high :: low :: rest => exact (short high low rest rfl).elim
    constructor
    · rintro ⟨⟩
      exact .nil
    · rintro ⟨⟩
      rfl

theorem isAscii_of_pairs (pairs : Pairs (Signed 16) data bytes) (mem : c ∈ data) :
    isAscii c = true := by
  obtain ⟨digits, n, signed, inside⟩ := pairs.exists_of_mem mem
  have every : (Text.lowerDigits ++ Text.upperDigits).all isAscii = true := by decide
  obtain rfl | ⟨d, digit⟩ := signed.eq_plus_or_isDigit inside
  · rfl
  · exact List.all_eq_true.1 every c digit.mem

theorem payloadOf_eq_ok_iff :
    payloadOf data = .ok bytes ↔ Pairs (Signed 16) data bytes ∧ bytes.length ≤ 8 := by
  unfold payloadOf
  split
  case isTrue wrong =>
    simp only [reduceCtorEq, false_iff]
    rintro ⟨pairs, short⟩
    have ascii : data.all isAscii = true :=
      List.all_eq_true.2 fun c mem => isAscii_of_pairs pairs mem
    have length := pairs.length
    simp only [ascii, Bool.not_true, Bool.false_or, Bool.or_eq_true, decide_eq_true_eq] at wrong
    omega
  case isFalse right =>
    simp only [Bool.or_eq_true, decide_eq_true_eq, not_or, not_lt, ne_eq, not_not] at right
    obtain ⟨⟨-, even⟩, fits⟩ := right
    rw [← bytesOfPairs_eq_ok_iff even]
    constructor
    · intro accepted
      cases read : bytesOfPairs data with
      | error e => simp [read, Except.mapError] at accepted
      | ok later =>
        rw [read] at accepted
        cases accepted
        have length := ((bytesOfPairs_eq_ok_iff even).1 read).length
        exact ⟨rfl, by omega⟩
    · rintro ⟨read, -⟩
      rw [read]
      rfl

-- ---------------------------------------------------------------------------
-- The frame
-- ---------------------------------------------------------------------------

def made (id : Nat) (bytes : List UInt8) : Can.Frame :=
  if Can.standardIdMask < UInt32.ofNat id then .extendedData (UInt32.ofNat id) bytes
  else .standard (UInt32.ofNat id) bytes

theorem toList_padData (short : bytes.length ≤ 8) :
    (Can.padData bytes).toList = bytes ++ List.replicate (8 - bytes.length) 0 := by
  refine List.ext_getElem (by simp; omega) fun i inside _ => ?_
  simp only [Can.padData, Vector.getElem_toList, Vector.getElem_ofFn]
  by_cases carried : i < bytes.length
  · rw [List.getElem_append_left carried, List.getElem?_eq_getElem carried, Option.getD_some]
  · rw [List.getElem_append_right (Nat.le_of_not_lt carried), List.getElem_replicate,
      List.getElem?_eq_none (Nat.le_of_not_lt carried), Option.getD_none]

theorem carries_withPayload (number : UInt32) (extended : Bool) (short : bytes.length ≤ 8) :
    Carries (.withPayload number extended bytes) number.toNat extended bytes where
  id := rfl
  extended := rfl
  remote := rfl
  dlc := by
    rw [Can.Frame.withPayload, Nat.min_eq_left short]
    exact UInt8.toNat_ofNat_of_lt' (Nat.lt_of_le_of_lt short (by decide))
  data := toList_padData short

/-- An identifier of more than eleven bits is cut to twenty-nine. -/
theorem carries_made (fits : id < UInt32.size) (short : bytes.length ≤ 8) :
    Carries (made id bytes) (id % 2 ^ 29) (decide (0x7FF < id)) bytes := by
  have same : (UInt32.ofNat id).toNat = id := UInt32.toNat_ofNat_of_lt' fits
  have long : Can.standardIdMask < UInt32.ofNat id ↔ 0x7FF < id := by
    rw [UInt32.lt_iff_toNat_lt, same]
    rfl
  unfold made
  split
  case isTrue above =>
    have cut : (UInt32.ofNat id &&& Can.extendedIdMask).toNat = id % 2 ^ 29 := by
      rw [UInt32.toNat_and, same]
      exact Nat.and_two_pow_sub_one_eq_mod id 29
    rw [decide_eq_true (long.1 above), ← cut]
    exact carries_withPayload _ true short
  case isFalse below =>
    have small : id ≤ 0x7FF := Nat.le_of_not_lt fun above => below (long.2 above)
    have whole : (UInt32.ofNat id &&& Can.standardIdMask).toNat = id % 2 ^ 29 := by
      rw [UInt32.toNat_and, same]
      exact (Nat.and_two_pow_sub_one_eq_mod id 11).trans (by omega)
    rw [decide_eq_false (by omega), ← whole]
    exact carries_withPayload _ false short

theorem Carries.unique {extended : Bool} (first : Carries f id extended bytes)
    (second : Carries g id extended bytes) : f = g := by
  cases f
  cases g
  rw [Can.Frame.mk.injEq]
  exact ⟨UInt32.toNat_inj.1 (first.id.trans second.id.symm),
    first.extended.trans second.extended.symm, first.remote.trans second.remote.symm,
    UInt8.toNat_inj.1 (first.dlc.trans second.dlc.symm),
    Vector.toList_inj.1 (first.data.trans second.data.symm)⟩

theorem ne_hash_of_not_mem (apart : '#' ∉ digits) : ∀ c ∈ digits, decide (c ≠ '#') = true :=
  fun _ mem => decide_eq_true fun same => apart (same ▸ mem)

theorem takeWhile_of_not_mem (apart : '#' ∉ digits) :
    (digits ++ '#' :: data).takeWhile (· ≠ '#') = digits := by
  rw [List.takeWhile_append_of_pos (ne_hash_of_not_mem apart)]
  exact List.append_nil _

theorem dropWhile_of_not_mem (apart : '#' ∉ digits) :
    (digits ++ '#' :: data).dropWhile (· ≠ '#') = '#' :: data := by
  rw [List.dropWhile_append_of_pos (ne_hash_of_not_mem apart)]
  rfl

theorem frameOf_append (apart : '#' ∉ digits) :
    frameOf (digits ++ '#' :: data) = .ok f ↔ ∃ id bytes,
      Text.unsigned 16 UInt32.size (stripMarks digits) = .ok id ∧ payloadOf data = .ok bytes ∧
        f = made id bytes := by
  unfold frameOf
  simp only [takeWhile_of_not_mem apart, dropWhile_of_not_mem apart]
  cases Text.unsigned 16 UInt32.size (stripMarks digits) with
  | error e => simp [Except.mapError, bind, Except.bind]
  | ok id =>
    cases payloadOf data with
    | error e => simp [Except.mapError, bind, Except.bind]
    | ok bytes =>
      show (ite _ (pure _) (pure _) : Except ValueError Can.Frame) = _ ↔ _
      rw [← apply_ite pure]
      simp [made, pure, Except.pure, eq_comm]

theorem frameOf_of_not_mem (missing : '#' ∉ text) : frameOf text = .error .noData := by
  have none_left : text.dropWhile (· ≠ '#') = [] :=
    List.dropWhile_eq_nil_iff.2 (ne_hash_of_not_mem missing)
  unfold frameOf
  simp only [none_left]
  rfl

theorem hash_not_mem_of_signed (signed : Signed 16 digits n) (k : Nat) :
    '#' ∉ marks k ++ digits := by
  rw [List.mem_append]
  rintro (mark | digit)
  · simp [marks] at mark
  · obtain same | ⟨d, isDigit⟩ := signed.eq_plus_or_isDigit digit
    · exact absurd same (by decide)
    · exact absurd isDigit.mem (by decide)

theorem frameOf_eq_ok_iff : frameOf text = .ok f ↔ ∃ id bytes,
    Form (Signed 16) text id bytes ∧ id < UInt32.size ∧ f = made id bytes := by
  constructor
  · intro accepted
    by_cases found : '#' ∈ text
    · obtain ⟨front, data, rfl, apart⟩ := List.eq_append_cons_of_mem found
      obtain ⟨id, bytes, identifier, payload, same⟩ := (frameOf_append apart).1 accepted
      obtain ⟨signed, fits⟩ := (Text.unsigned_eq_ok_iff (by decide) (by decide)).1 identifier
      obtain ⟨pairs, short⟩ := payloadOf_eq_ok_iff.1 payload
      obtain ⟨k, parts⟩ := exists_stripMarks front
      refine ⟨id, bytes, ?_, fits, same⟩
      rw [parts]
      exact .intro k signed pairs short
    · rw [frameOf_of_not_mem found] at accepted
      cases accepted
  · rintro ⟨id, bytes, ⟨k, signed, pairs, short⟩, fits, same⟩
    refine (frameOf_append (hash_not_mem_of_signed signed k)).2 ⟨id, bytes, ?_, ?_, same⟩
    · rw [stripMarks_marks, stripMarks_of_signed signed]
      exact (Text.unsigned_eq_ok_iff (by decide) (by decide)).2 ⟨signed, fits⟩
    · exact payloadOf_eq_ok_iff.2 ⟨pairs, short⟩

-- ---------------------------------------------------------------------------
-- What was written
-- ---------------------------------------------------------------------------

/-- The identifier is what stands before the `#`, so a text has one only. -/
theorem Form.id_unique {id' : Nat} {bytes' : List UInt8} (first : Form (Signed 16) text id bytes)
    (second : Form (Signed 16) text id' bytes') : id = id' := by
  have reads {n : Nat} {later : List UInt8} (form : Form (Signed 16) text n later)
      (below : n < id + id' + 1) :
      Text.unsigned 16 (id + id' + 1) (stripMarks (text.takeWhile (· ≠ '#'))) = .ok n := by
    obtain ⟨k, signed⟩ := form
    rw [takeWhile_of_not_mem (hash_not_mem_of_signed signed k), stripMarks_marks,
      stripMarks_of_signed signed]
    exact (Text.unsigned_eq_ok_iff (by decide) (Nat.succ_pos _)).2 ⟨signed, below⟩
  exact Except.ok.inj ((reads first (by omega)).symm.trans (reads second (by omega)))

theorem Form.plus_not_mem (form : Form (Numeral 16) text id bytes) : '+' ∉ text := by
  obtain ⟨k, numeral, pairs, -⟩ := form
  simp only [List.mem_append, List.mem_cons]
  rintro ((mark | digit) | same | digit)
  · simp [marks] at mark
  · obtain ⟨d, isDigit⟩ := numeral.isDigit digit
    exact Text.plus_not_isDigit isDigit
  · exact absurd same (by decide)
  · obtain ⟨digits, n, numeral, inside⟩ := pairs.exists_of_mem digit
    obtain ⟨d, isDigit⟩ := numeral.isDigit inside
    exact Text.plus_not_isDigit isDigit

/-- A sign or a wide identifier is all that is accepted beside the form. -/
theorem faithful_iff (form : Form (Signed 16) text id bytes)
    (carries : Carries f (id % 2 ^ 29) (decide (0x7FF < id)) bytes) :
    Faithful text f ↔ '+' ∉ text ∧ id < 2 ^ 29 := by
  constructor
  · rintro ⟨id', bytes', plain, narrow, -⟩
    have same := form.id_unique (plain.imp fun _ _ _ => .bare)
    exact ⟨plain.plus_not_mem, same ▸ narrow⟩
  · rintro ⟨unsigned, narrow⟩
    refine ⟨id, bytes, form.imp fun digits n inside signed => ?_, narrow, ?_⟩
    · refine (Text.signed_iff fun rest same => ?_).1 signed
      exact unsigned (inside (same ▸ List.mem_cons_self))
    · rwa [Nat.mod_eq_of_lt narrow] at carries

theorem accepts_iff : frameOf text = .ok f ↔ ∃ id bytes, Form (Signed 16) text id bytes ∧
    id < UInt32.size ∧ Carries f (id % 2 ^ 29) (decide (0x7FF < id)) bytes := by
  rw [frameOf_eq_ok_iff]
  constructor
  · rintro ⟨id, bytes, form, fits, rfl⟩
    exact ⟨id, bytes, form, fits, carries_made fits form.short⟩
  · rintro ⟨id, bytes, form, fits, carries⟩
    exact ⟨id, bytes, form, fits, carries.unique (carries_made fits form.short)⟩

end

structure TextContract (text : List Char) : Prop where
  /-- Any number may bear a plus sign, and an identifier may have up to thirty-two bits, of which
  the frame has twenty-nine. -/
  accepts (f : Can.Frame) : frameOf text = .ok f ↔ ∃ id bytes, Form (Signed 16) text id bytes ∧
    id < UInt32.size ∧ Carries f (id % 2 ^ 29) (decide (0x7FF < id)) bytes
  faithful {f : Can.Frame} {id : Nat} {bytes : List UInt8} (accepted : frameOf text = .ok f)
    (form : Form (Signed 16) text id bytes) : Faithful text f ↔ '+' ∉ text ∧ id < 2 ^ 29

theorem frameOf_textContract (text : List Char) : TextContract text where
  accepts _ := accepts_iff
  faithful accepted form := by
    obtain ⟨id, bytes, form', fits, carries⟩ := accepts_iff.1 accepted
    rw [form.id_unique form']
    exact faithful_iff form' carries

def Misread (text : List Char) : Prop :=
  ∃ f, frameOf text = .ok f ∧ ¬Faithful text f

/-- A sign in the payload, a sign before the identifier, and an identifier of thirty bits, of which
nothing is left. -/
theorem misread_of_sign_or_wide :
    Misread "100#+1".toList ∧ Misread "+100#00".toList ∧ Misread "20000000#".toList := by
  have signed {text : List Char} {f : Can.Frame} (accepted : frameOf text = .ok f)
      (sign : '+' ∈ text) : Misread text :=
    ⟨f, accepted, fun ⟨_, _, form, _⟩ => form.plus_not_mem sign⟩
  refine ⟨signed (f := .standard 0x100 [0x01]) (by decide) (by decide),
    signed (f := .standard 0x100 [0x00]) (by decide) (by decide),
    .extendedData 0x20000000 [], by decide, ?_⟩
  -- Here it is the frame that is wrong: an extended one with the identifier zero.
  rintro ⟨id, bytes, -, -, carries⟩
  have long := of_decide_eq_true (carries.extended.symm.trans rfl)
  have zero : 0 = id := carries.id
  omega

end BoardSim.Command
