/-!
# Integers in text

Unsigned integers in a radix, with one optional plus sign. Of several faults the first one in the
text is reported.
-/

namespace BoardSim.Text

inductive IntegerError where
  | empty
  | invalidDigit
  | tooLarge
deriving DecidableEq

def IntegerError.message : IntegerError → String
  | empty => "cannot parse integer from empty string"
  | invalidDigit => "invalid digit found in string"
  | tooLarge => "number too large to fit in target type"

def digit? (radix : Nat) (c : Char) : Option Nat :=
  let value :=
    if '0' ≤ c ∧ c ≤ '9' then c.toNat - 48
    else if 'a' ≤ c ∧ c ≤ 'z' then c.toNat - 87
    else if 'A' ≤ c ∧ c ≤ 'Z' then c.toNat - 55
    else radix
  if value < radix then some value else none

/-- Read digits after those that make up `value`; the result has to stay below `limit`. -/
def digitsFrom (radix limit : Nat) (value : Nat) : List Char → Except IntegerError Nat
  | [] => .ok value
  | c :: rest =>
    match digit? radix c with
    | none => .error .invalidDigit
    | some d =>
      let value := value * radix + d
      if value < limit then digitsFrom radix limit value rest else .error .tooLarge

/-- Read an unsigned integer below `limit`. -/
def unsigned (radix limit : Nat) : List Char → Except IntegerError Nat
  | [] => .error .empty
  | ['+'] => .error .invalidDigit
  | '+' :: digits => digitsFrom radix limit 0 digits
  | digits => digitsFrom radix limit 0 digits

end BoardSim.Text
