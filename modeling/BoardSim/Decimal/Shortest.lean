import BoardSim.Decimal.Binary

/-!
# Shortest decimal digits

The shortest decimal number that is read back as a given double. The reals that round to a double
form an interval, which holds its ends exactly when the mantissa is even. A number of `n` digits
lies in it exactly if one of the double's two neighbours among the numbers of `n` digits does, so
trying one digit, two digits and so on finds the shortest.
-/

namespace BoardSim.Decimal

structure Scaled where
  digits : Nat
  exponent : Int
deriving DecidableEq

namespace Magnitude

/-- The interval of the reals that round to the magnitude, and the magnitude itself, in quarters
of its unit. Below a power of two the doubles lie twice as close. -/
def quarters (m : Magnitude) : Nat × Nat × Nat :=
  let close := m.mantissa = hiddenBit ∧ -1074 < m.exponent
  (4 * m.mantissa - (if close then 1 else 2), 4 * m.mantissa, 4 * m.mantissa + 2)

/-- Whether `digits` times ten to the `place` rounds to the magnitude. -/
def isReadFrom (m : Magnitude) (digits : Nat) (place : Int) : Bool :=
  let (low, _, high) := m.quarters
  let value := 4 * digits * pow10 place.toNat * pow2 (-m.exponent).toNat
  let unit := pow10 (-place).toNat * pow2 m.exponent.toNat
  if m.mantissa % 2 = 0 then low * unit ≤ value && value ≤ high * unit
  else low * unit < value && value < high * unit

/-- The number of decimal digits before the point; zero or negative below one tenth. -/
def decimalPlaces (m : Magnitude) : Int :=
  let (num, den) := m.ratio
  -- A factor of two is 0.30103 decimal places, so the guess is at most two too low.
  let guess : Int := ((Nat.log2 num : Int) - Nat.log2 den) * 30103 / 100000
  let atLeast (k : Int) : Bool := den * pow10 k.toNat ≤ num * pow10 (-k).toNat
  if atLeast (guess + 1) then guess + 2 else if atLeast guess then guess + 1 else guess

/-- The nearest number of the grid with unit ten to the `place` that is read back. -/
def onGrid? (m : Magnitude) (place : Int) : Option Scaled :=
  let (num, den) := m.ratio
  let n := num * pow10 (-place).toNat
  let d := den * pow10 place.toNat
  let below := n / d
  let first := roundDiv n d
  let second := if first = below then below + 1 else below
  if m.isReadFrom first place then some ⟨first, place⟩
  else if m.isReadFrom second place then some ⟨second, place⟩
  else none

/-- The shortest number that is read back. Seventeen digits always are. -/
def shortest (m : Magnitude) : Scaled :=
  let places := m.decimalPlaces
  let grids := (List.range 18).map fun (n : Nat) => places - (n + 1)
  (grids.findSome? m.onGrid?).getD ⟨m.mantissa, 0⟩

end Magnitude

/-- Where positional notation ends, and which marks are written. -/
structure FloatFormat where
  /-- Numbers with more digits before the point are written with an exponent. -/
  maxPlaces : Int
  /-- Numbers with fewer are, too. -/
  minPlaces : Int

/-- Whole numbers end in `.0`; below 10^16 and down to 10^-5 there is no exponent. An exponent has
its sign. -/
def FloatFormat.json : FloatFormat := ⟨16, -4⟩

def Scaled.trim (s : Scaled) : Scaled :=
  let text := Nat.toDigits 10 s.digits
  let zeros := (text.reverse.takeWhile (· = '0')).length
  if s.digits = 0 then ⟨0, 0⟩ else ⟨s.digits / pow10 zeros, s.exponent + zeros⟩

def FloatFormat.write (f : FloatFormat) (s : Scaled) : String :=
  let s := s.trim
  let digits := Nat.toDigits 10 s.digits
  let count := digits.length
  let places : Int := count + s.exponent
  let zeros (n : Nat) := List.replicate n '0'
  let text :=
    if 0 ≤ s.exponent ∧ places ≤ f.maxPlaces then
      digits ++ zeros s.exponent.toNat ++ ['.', '0']
    else if 0 < places ∧ places ≤ f.maxPlaces then
      digits.take places.toNat ++ '.' :: digits.drop places.toNat
    else if f.minPlaces ≤ places ∧ places ≤ 0 then
      '0' :: '.' :: zeros (-places).toNat ++ digits
    else
      let sign := if places < 1 then [] else ['+']
      let exponent := sign ++ (toString (places - 1)).toList
      let mantissa := if count = 1 then digits else digits.take 1 ++ '.' :: digits.drop 1
      mantissa ++ 'e' :: exponent
  String.ofList text

/-- The text of a finite double: sign, then the shortest digits. `none` for the others. -/
def FloatFormat.float? (f : FloatFormat) (x : Float) : Option String :=
  (unpack x).map fun (negative, m) =>
    let text := if m.mantissa = 0 then "0.0" else f.write m.shortest
    if negative then "-" ++ text else text

/-- A finite double rounded to a whole number, a half going to the even one. -/
def whole? (x : Float) : Option String :=
  (unpack x).map fun (negative, m) =>
    let (num, den) := m.ratio
    let text := toString (roundDiv num den)
    if negative then "-" ++ text else text

end BoardSim.Decimal
