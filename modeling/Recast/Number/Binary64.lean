/-!
# Doubles

A double is kept as its sixty-four bits, so that two of them are equal exactly when they are written
alike: the zeros differ, and no operation of the processor takes part. The arithmetic is exact on natural
numbers and rounds once, to the nearest double, a tie to the even one.
-/

namespace Recast

/-- A number of the IEEE 754 format with sixty-four bits. -/
structure Binary64 where
  bits : UInt64
deriving DecidableEq, Repr, Inhabited

namespace Binary64

/-! ### The value of the bits -/

/-- The sign bit is set. -/
def isNegative (x : Binary64) : Bool := x.bits >>> 63 = 1

/-- The eleven bits of the exponent. -/
def exponentField (x : Binary64) : Nat := ((x.bits >>> 52) &&& 0x7FF).toNat

/-- The fifty-two bits of the fraction. -/
def fractionField (x : Binary64) : Nat := (x.bits &&& 0xFFFFFFFFFFFFF).toNat

/-- Neither an infinity nor a NaN. -/
def isFinite (x : Binary64) : Bool := x.exponentField ≠ 0x7FF

/-- The bit in front of the fraction, which is not stored. -/
def hiddenBit : Nat := 0x10000000000000

/-- The integer `m` of the magnitude `m * 2 ^ q`. -/
def significand (x : Binary64) : Nat :=
  if x.exponentField = 0 then x.fractionField else hiddenBit + x.fractionField

/-- The power `q` of the magnitude `m * 2 ^ q`. -/
def exponent (x : Binary64) : Int :=
  if x.exponentField = 0 then -1074 else (x.exponentField : Int) - 1075

/-- Both zeros. -/
def isZero (x : Binary64) : Bool := x.significand = 0

/-- The same magnitude with the sign bit set. -/
def negative (x : Binary64) : Binary64 := ⟨x.bits ||| 0x8000000000000000⟩

/-! ### Rounding -/

/-- The quotient rounded to the nearest natural number, a tie to the even one. -/
def roundQuotient (num den : Nat) : Nat :=
  let whole := num / den
  let twice := 2 * (num % den)
  if twice > den || (twice = den && whole % 2 = 1) then whole + 1 else whole

/-- The quotient `num / (den * 2 ^ q)` as a numerator and a denominator. -/
def scaled (num den : Nat) (q : Int) : Nat × Nat := (num <<< (-q).toNat, den <<< q.toNat)

/-- The power `q` for which `num / den` has an integer part of at most fifty-three bits after division by
`2 ^ q`, and of exactly fifty-three where the exponent range allows. -/
def roundingExponent (num den : Nat) : Int :=
  -- The bits of the quotient are those of `num` less those of `den`, or one more.
  let q := max ((num.log2 : Int) - den.log2 - 53) (-1074)
  let (n, d) := scaled num den q
  if n / d ≥ 2 * hiddenBit then q + 1 else q

/-- The double nearest to `num / den`; an infinity beyond the largest one. The bits of a positive double
count the doubles below it, so a significand that rounds up to one bit more carries into the exponent. -/
def ofQuotient (num den : Nat) : Binary64 :=
  if num = 0 then ⟨0⟩
  else
    let q := roundingExponent num den
    let (n, d) := scaled num den q
    ⟨(min ((q + 1074).toNat * hiddenBit + roundQuotient n d) (0x7FF * hiddenBit)).toUInt64⟩

/-- The double nearest to a natural number. -/
def ofNat (n : Nat) : Binary64 := ofQuotient n 1

/-- The magnitude as a numerator and a denominator. -/
def quotient (x : Binary64) : Nat × Nat :=
  (x.significand <<< x.exponent.toNat, 1 <<< (-x.exponent).toNat)

/-- The product of two magnitudes, rounded. -/
def mul (x y : Binary64) : Binary64 :=
  ofQuotient (x.quotient.1 * y.quotient.1) (x.quotient.2 * y.quotient.2)

/-- The quotient of two magnitudes, rounded; the divisor is not zero. -/
def div (x y : Binary64) : Binary64 :=
  ofQuotient (x.quotient.1 * y.quotient.2) (x.quotient.2 * y.quotient.1)

/-- The double nearest to a power of ten. -/
def tenPower (n : Nat) : Binary64 := ofNat (Nat.pow 10 n)

/-- Halfway between two doubles the even one is taken. -/
example : ofNat (2 * hiddenBit + 1) = ofNat (2 * hiddenBit) := by decide +kernel

end Binary64

end Recast
