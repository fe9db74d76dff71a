/-!
# Double-precision numbers and ratios

A finite double is a whole number of units of a power of two. `Decimal.unpack` reads that off its
bits, and `Decimal.nearest` finds the double nearest to a quotient of natural numbers, a tie going
to the even one.
-/

namespace BoardSim.Decimal

def pow2 (n : Nat) : Nat := Nat.pow 2 n

def pow10 (n : Nat) : Nat := Nat.pow 10 n

/-- The mantissa of a double that is not subnormal lies between this and its double. -/
def hiddenBit : Nat := 0x10000000000000

/-- The magnitude of a finite double: `mantissa` times two to the `exponent`. -/
structure Magnitude where
  mantissa : Nat
  exponent : Int
deriving DecidableEq

/-- Sign and magnitude of a double; `none` for infinities and NaN. -/
def unpack (x : Float) : Option (Bool × Magnitude) :=
  let bits := x.toBits.toNat
  let negative := bits / pow2 63 == 1
  let field : Nat := bits / hiddenBit % 2048
  let fraction : Nat := bits % hiddenBit
  if field = 2047 then none
  else if field = 0 then some (negative, ⟨fraction, -1074⟩)
  else some (negative, ⟨hiddenBit + fraction, (field : Int) - 1075⟩)

/-- The quotient nearest to `num / den`; a tie goes to the even one. -/
def roundDiv (num den : Nat) : Nat :=
  let q := num / den
  let r := num % den
  if den < 2 * r ∨ (den = 2 * r ∧ q % 2 = 1) then q + 1 else q

/-- The magnitude as a quotient of natural numbers. -/
def Magnitude.ratio (m : Magnitude) : Nat × Nat :=
  (m.mantissa * pow2 m.exponent.toNat, pow2 (-m.exponent).toNat)

/-- The bits of the double nearest to `num / den`, where infinity stands for all that is too
large. -/
def nearestBits (num den : Nat) : UInt64 :=
  if num = 0 then 0
  else
    /- Two powers below the estimate there are 53 or 54 bits before the point. -/
    let low : Int := (Nat.log2 num : Int) - Nat.log2 den - 53
    let scaled (e : Int) : Nat × Nat := (num * pow2 (-e).toNat, den * pow2 e.toNat)
    let (n, d) := scaled low
    let e := max (-1074) (if n < d * (2 * hiddenBit) then low else low + 1)
    let (n, d) := scaled e
    let bits := (e + 1074).toNat * hiddenBit + roundDiv n d
    UInt64.ofNat (min bits (2047 * hiddenBit))

/-- The double nearest to `num / den`. -/
def nearest (num den : Nat) : Float := Float.ofBits (nearestBits num den)

/-- The double nearest to `digits` times ten to the `exponent`. Far outside the range of doubles
the power of ten is not computed: `digits` has at most `log2 digits / 3 + 1` decimal digits. -/
def nearestScaled (digits : Nat) (exponent : Int) : Float :=
  let bound : Int := Nat.log2 digits / 3 + 1
  if digits = 0 ∨ bound + exponent < -330 then 0
  else if 400 < exponent then Float.ofBits 0x7FF0000000000000
  else nearest (digits * pow10 exponent.toNat) (pow10 (-exponent).toNat)

end BoardSim.Decimal
