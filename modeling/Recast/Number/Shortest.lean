import Recast.Number.Binary64

/-!
# The shortest decimal of a double

Every double stands for an interval of reals, those that round to it. Its text has the fewest digits with
which a decimal lies in that interval; among decimals of that length the nearest is taken, and of two
equally near ones the even. The search is by exact arithmetic on natural numbers: on the grid of all
decimals with a given number of digits, only the two neighbours of the value need be tried.
-/

namespace Recast

/-- The number `digits * 10 ^ exponent`. -/
structure Decimal where
  digits : Nat
  exponent : Int
deriving DecidableEq, Repr

namespace Binary64

/-! ### The interval of a double -/

/-- Compare `a * 10 ^ i` with `m * 2 ^ q`. -/
def compareScaled (a : Nat) (i : Int) (m : Nat) (q : Int) : Ordering :=
  compare ((a * Nat.pow 10 i.toNat) <<< (-q).toNat) ((m * Nat.pow 10 (-i).toNat) <<< q.toNat)

/-- The neighbour below is half as far away as the neighbour above. -/
def narrowBelow (x : Binary64) : Bool := x.fractionField = 0 && x.exponentField > 1

/-- The decimal rounds to the magnitude of `x`. In quarters of the last place the interval reaches from
two below, or one at a power of two, to two above; its ends belong to it if the significand is even. -/
def reads (x : Binary64) (d : Decimal) : Bool :=
  let low := compareScaled d.digits d.exponent
    (4 * x.significand - if x.narrowBelow then 1 else 2) (x.exponent - 2)
  let high := compareScaled d.digits d.exponent (4 * x.significand + 2) (x.exponent - 2)
  let even := x.significand % 2 = 0
  (low = .gt || (even && low = .eq)) && (high = .lt || (even && high = .eq))

/-! ### The search -/

/-- The greatest `k` with `10 ^ k` at most `num / den`, started from a guess that is at most one short. -/
def decimalExponent (num den : Nat) : Int :=
  -- The fraction is the logarithm of two to the base ten, exact enough for all exponents of a double.
  let guess : Int := ((num.log2 : Int) - den.log2 - 1) * 30103 / 100000
  let atMost (k : Int) : Bool := Nat.pow 10 k.toNat * den ≤ num * Nat.pow 10 (-k).toNat
  if atMost (guess + 1) then guess + 1 else if atMost guess then guess else guess - 1

/-- The decimal of the grid `10 ^ e` that rounds to the magnitude of `x` and is nearest to it. -/
def nearestOn? (x : Binary64) (e : Int) : Option Decimal :=
  let (num, den) := x.quotient
  let num := num * Nat.pow 10 (-e).toNat
  let den := den * Nat.pow 10 e.toNat
  let below : Decimal := ⟨num / den, e⟩
  let above : Decimal := ⟨num / den + 1, e⟩
  let twice := 2 * (num % den)
  let aboveIsNearer := twice > den || (twice = den && num / den % 2 = 1)
  match x.reads below, x.reads above with
  | true, true => some (if aboveIsNearer then above else below)
  | true, false => some below
  | false, true => some above
  | false, false => none

/-- Trailing zeros of the digits moved into the exponent, at most `fuel` of them. -/
def stripZeros : Nat → Decimal → Decimal
  | 0, d => d
  | fuel + 1, d =>
    if d.digits ≠ 0 && d.digits % 10 = 0 then stripZeros fuel ⟨d.digits / 10, d.exponent + 1⟩ else d

/-- The magnitude of `x` in full, an even power of two being a decimal too. -/
def exactDecimal (x : Binary64) : Decimal :=
  let e := min x.exponent 0
  ⟨(x.significand <<< x.exponent.toNat) * Nat.pow 5 (-e).toNat, e⟩

/-- The shortest decimal that rounds to the magnitude of the finite double `x`, without trailing zeros.
Seventeen digits suffice for every double. -/
def shortest (x : Binary64) : Decimal :=
  if x.isZero then ⟨0, 0⟩
  else
    let top := decimalExponent x.quotient.1 x.quotient.2
    let found := (List.range 17).findSome? fun (n : Nat) ↦ x.nearestOn? (top - n)
    stripZeros 17 (found.getD x.exactDecimal)

/-! ### Its text -/

/-- How a decimal is laid out: in positions while the first digit stands at a power of ten from `leastPower`
to below `powerBound`, with a fractional digit at least; else with a mark and a signed exponent. -/
structure NumberLayout where
  leastPower : Int
  powerBound : Int
  exponentMark : String
  plusSign : String

/-- Doubles are positional from `0.00001` to below `10 ^ 16`, and otherwise read like `1.5e+16`. -/
def layout : NumberLayout := ⟨-5, 16, "e", "+"⟩

/-- The digits, of which `point` stand before the decimal point; `point` may lie outside of them. -/
def positional (digits : List Char) (point : Int) : String :=
  if point ≤ 0 then
    "0." ++ String.ofList (List.replicate (-point).toNat '0' ++ digits)
  else
    let whole := digits.take point.toNat ++ List.replicate (point.toNat - digits.length) '0'
    let fraction := digits.drop point.toNat
    String.ofList whole ++ "." ++ (if fraction.isEmpty then "0" else String.ofList fraction)

/-- The digits with a point after the first, and the power of ten of that digit. -/
def scientific (layout : NumberLayout) (digits : List Char) (power : Int) : String :=
  let mantissa := match digits with
    | [] => "0"
    | [d] => String.ofList [d]
    | d :: rest => String.ofList (d :: '.' :: rest)
  let sign := if power < 0 then "-" else layout.plusSign
  mantissa ++ layout.exponentMark ++ sign ++ toString power.natAbs

/-- The text of a finite double. -/
def render (x : Binary64) : String :=
  let d := x.shortest
  let digits := Nat.toDigits 10 d.digits
  let power := d.exponent + digits.length - 1
  let magnitude :=
    if layout.leastPower ≤ power && power < layout.powerBound then positional digits (power + 1)
    else scientific layout digits power
  if x.isNegative then "-" ++ magnitude else magnitude

end Binary64

end Recast
