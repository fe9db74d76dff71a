import BoardSim.Json.Lexeme
import BoardSim.Json.Value
import BoardSim.Decimal.Binary

/-!
# The numbers of JSON

An integer is one if it fits 64 bits; every other number is a double, computed from the digits
that fit 64 bits by one multiplication or division with a power of ten. A number beyond the largest
double has no value.
-/

namespace BoardSim.Json

/-- A number in the making: the digits that fit 64 bits, and the power of ten they stand for. -/
structure Significand where
  value : Nat
  exponent : Int := 0

/-- Take in digits before the point. Once one does not fit, the rest only count. -/
def Significand.ofWhole (digits : List Char) : Significand :=
  go 0 digits
where
  go (value : Nat) : List Char → Significand
    | [] => ⟨value, 0⟩
    | c :: rest =>
      let next := value * 10 + digitValue c
      if next < UInt64.size then go next rest else ⟨value, rest.length + 1⟩

/-- Take in digits after the point. Those from the first one that does not fit on are dropped. -/
def Significand.addFraction (s : Significand) : List Char → Significand
  | [] => s
  | c :: rest =>
    let next := s.value * 10 + digitValue c
    if next < UInt64.size then Significand.addFraction ⟨next, s.exponent - 1⟩ rest else s

/-- Ten to the `n` as a double, for `n` up to 308. -/
def powerOfTen (n : Nat) : Float := Decimal.nearest (Decimal.pow10 n) 1

/-- Divide by ten to the `n`, at most 308 places at a time. -/
def divideByPower (x : Float) (n : Nat) : Float :=
  if n ≤ 308 then x / powerOfTen n
  else if x == 0 then x
  else divideByPower (x / powerOfTen 308) (n - 308)
termination_by n

/-- The double a number stands for; `none` if it is too large. -/
def Significand.toFloat? (s : Significand) : Option Float :=
  let x := (UInt64.ofNat s.value).toFloat
  if s.exponent < 0 then some (divideByPower x (-s.exponent).toNat)
  else if 308 < s.exponent then if s.value = 0 then some 0 else none
  else
    let product := x * powerOfTen s.exponent.toNat
    if product.isInf then none else some product

/-- Exponents are held to what 32 bits take in. -/
def clampExponent (n : Int) : Int := max (-2147483648) (min n 2147483647)

namespace Numeral

/-- The digits of a numeral and the power of ten they stand for. -/
def significand (n : Numeral) : Significand :=
  let s := (Significand.ofWhole n.whole).addFraction (n.fraction.getD [])
  { s with exponent := clampExponent (s.exponent + n.exponent.getD 0) }

/-- The integer that a numeral without fraction and exponent is, if 64 bits hold it. Minus zero
is none. -/
def integer? (negative : Bool) (n : Numeral) : Option Int :=
  let s := Significand.ofWhole n.whole
  if n.fraction.isSome || n.exponent.isSome || s.exponent ≠ 0 then none
  else if !negative then some s.value
  else if s.value = 0 ∨ UInt64.size / 2 < s.value then none
  else some (-s.value)

def float? (negative : Bool) (n : Numeral) : Option Float :=
  n.significand.toFloat?.map fun x => if negative then -x else x

/-- The value of a numeral after its sign. -/
def value? (negative : Bool) (n : Numeral) : Option Json :=
  match n.integer? negative with
  | some k => some (.int k)
  | none => (n.float? negative).map .float

end Numeral

end BoardSim.Json
