import BoardSim.Yaml.Node
import BoardSim.Text.Integer
import BoardSim.Decimal.Reader

/-!
# The values of scalars

Null, truth values and numbers are recognised by their text, if a scalar is written plainly; a tag
of the core schema can ask for one. Integers are decimal, without leading zeros, or have the mark
of another radix.
-/

namespace BoardSim.Yaml.Scalar

def isNull (text : String) : Bool := ["null", "Null", "NULL", "~"].contains text

def bool? (text : String) : Option Bool :=
  if ["true", "True", "TRUE"].contains text then some true
  else if ["false", "False", "FALSE"].contains text then some false
  else none

/-- Digits with a leading zero are no number. -/
def hasLeadingZero (text : List Char) : Bool :=
  let digits :=
    match text with
    | '-' :: digits | '+' :: digits => digits
    | digits => digits
  1 < digits.length && digits.head? == some '0' && digits.all Char.isDigit

/-- The radix of a number and the digits after its mark. -/
def radix? : List Char → Option (Nat × List Char)
  | '0' :: 'x' :: digits => some (16, digits)
  | '0' :: 'o' :: digits => some (8, digits)
  | '0' :: 'b' :: digits => some (2, digits)
  | _ => none

def startsWithSign (text : List Char) : Bool := text.head? == some '+' || text.head? == some '-'

/-- A number below `limit` after its sign. -/
def magnitude? (limit : Nat) (text : List Char) : Option Nat :=
  match radix? text with
  | some (radix, digits) =>
    if startsWithSign digits then none else (Text.unsigned radix limit digits).toOption
  | none =>
    if startsWithSign text || hasLeadingZero text then none
    else (Text.unsigned 10 limit text).toOption

/-- A number below `limit` that is not negative. -/
def unsigned? (limit : Nat) (text : String) : Option Nat :=
  match text.toList with
  | '+' :: rest => magnitude? limit rest
  | text => magnitude? limit text

/-- A negative number down to `-limit`, or zero with a minus sign. -/
def negative? (limit : Nat) (text : String) : Option Int :=
  match text.toList with
  | '-' :: rest => (magnitude? (limit + 1) rest).map fun n => -(n : Int)
  | _ => none

/-- A floating-point number, with the special ones written with a point. -/
def float? (text : String) : Option Float :=
  let infinity : Float := Float.ofBits 0x7FF0000000000000
  if [".inf", ".Inf", ".INF", "+.inf", "+.Inf", "+.INF"].contains text then some infinity
  else if ["-.inf", "-.Inf", "-.INF"].contains text then some (-infinity)
  else if [".nan", ".NaN", ".NAN"].contains text then some (Float.ofBits 0x7FF8000000000000)
  else
    let digits :=
      match text.toList with
      | '+' :: digits => if startsWithSign digits then none else some digits
      | digits => some digits
    (digits.bind Decimal.float?).filter Float.isFinite

end BoardSim.Yaml.Scalar
