import BoardSim.Decimal.Binary

/-!
# Decimal text

A decimal number in text: a sign, digits with a point among them or at either end, and an
exponent. At least one digit has to stand before the exponent. It is read as the nearest double.
-/

namespace BoardSim.Decimal

/-- The number that a string of digits stands for. -/
def digitsValue (digits : List Char) : Nat := digits.foldl (fun n c => n * 10 + (c.toNat - 48)) 0

/-- An exponent, up to the end of the text. Without a mark it is zero. -/
def exponent? : List Char → Option Int
  | [] => some 0
  | mark :: rest =>
    if mark ≠ 'e' ∧ mark ≠ 'E' then none
    else
      let (negative, digits) :=
        match rest with
        | '-' :: digits => (true, digits)
        | '+' :: digits => (false, digits)
        | digits => (false, digits)
      if digits.isEmpty || !digits.all Char.isDigit then none
      else some (if negative then -(digitsValue digits : Int) else digitsValue digits)

/-- A number without a sign. -/
def magnitude? (text : List Char) : Option Float :=
  let whole := text.takeWhile Char.isDigit
  let rest := text.dropWhile Char.isDigit
  let (fraction, rest) :=
    match rest with
    | '.' :: rest => (rest.takeWhile Char.isDigit, rest.dropWhile Char.isDigit)
    | rest => ([], rest)
  if whole.isEmpty && fraction.isEmpty then none
  else
    (exponent? rest).map fun exponent =>
      nearestScaled (digitsValue (whole ++ fraction)) (exponent - fraction.length)

/-- A number with an optional sign. -/
def float? : List Char → Option Float
  | '-' :: rest => (magnitude? rest).map (-·)
  | '+' :: rest => magnitude? rest
  | text => magnitude? text

/-- The double is zero or neither subnormal, infinite nor NaN. -/
def isRegular (x : Float) : Bool :=
  match unpack x with
  | some (_, m) => m.mantissa = 0 || hiddenBit ≤ m.mantissa
  | none => false

end BoardSim.Decimal
