import Recast.Json.Basic
import Recast.Number.Width

/-!
# Numerals

A numeral of a JSON text is split into its parts and then valued. An integer that fits sixty-four bits,
signed or unsigned, is kept; every other numeral becomes a double. The double is the one that a
sixty-four-bit significand and a single multiplication or division by a power of ten give: digits that no
longer fit the significand are dropped, before the point with a shift of the exponent.
-/

namespace Recast

/-- The parts of a numeral. A fraction or an exponent that is not written is `none`. -/
structure Numeral where
  negative : Bool
  whole : List Char
  fraction : Option (List Char)
  exponent : Option Int
deriving DecidableEq, Repr

/-- The natural number written by decimal digits. -/
def natOfDigits (digits : List Char) : Nat :=
  digits.foldl (fun n c ↦ 10 * n + (c.toNat - '0'.toNat)) 0

namespace Numeral

/-! ### Splitting -/

/-- The exponent after its mark: an optional sign and at least one digit. -/
def exponent? (text : List Char) : Option Int :=
  let (negative, digits) := match text with
    | '-' :: rest => (true, rest)
    | '+' :: rest => (false, rest)
    | rest => (false, rest)
  if digits.isEmpty || !digits.all Char.isDigit then none
  else some (if negative then -natOfDigits digits else natOfDigits digits)

/-- The part of a numeral after its integer and fraction. -/
def withExponent? (numeral : Numeral) : List Char → Option Numeral
  | [] => some numeral
  | 'e' :: rest => (exponent? rest).map fun e ↦ { numeral with exponent := some e }
  | 'E' :: rest => (exponent? rest).map fun e ↦ { numeral with exponent := some e }
  | _ => none

/-- The part of a numeral after its integer. A point is followed by at least one digit. -/
def withFraction? (numeral : Numeral) : List Char → Option Numeral
  | '.' :: rest =>
    let digits := rest.takeWhile Char.isDigit
    if digits.isEmpty then none
    else withExponent? { numeral with fraction := some digits } (rest.dropWhile Char.isDigit)
  | rest => withExponent? numeral rest

/-- A numeral without its sign. The integer has no leading zero. -/
def unsigned? (negative : Bool) (text : List Char) : Option Numeral :=
  let whole := text.takeWhile Char.isDigit
  let rest := text.dropWhile Char.isDigit
  match whole with
  | [] => none
  | '0' :: _ :: _ => none
  | _ => withFraction? ⟨negative, whole, none, none⟩ rest

/-- The parts of a text that is one numeral. -/
def ofChars? : List Char → Option Numeral
  | '-' :: rest => unsigned? true rest
  | text => unsigned? false text

/-! ### Valuing -/

/-- A significand of sixty-four bits and the power of ten that belongs to it. -/
structure Scaled where
  significand : Nat
  power : Int

/-- The significand with one more digit, if it still fits. -/
def Scaled.append? (s : Scaled) (digit : Char) : Option Nat :=
  let grown := 10 * s.significand + (digit.toNat - '0'.toNat)
  if fitsNat64 grown then some grown else none

/-- Digits before the point; from the first that does not fit, each counts as a power of ten. -/
def Scaled.addWhole (s : Scaled) : List Char → Scaled
  | [] => s
  | digit :: rest =>
    match s.append? digit with
    | some grown => Scaled.addWhole ⟨grown, s.power⟩ rest
    | none => ⟨s.significand, s.power + (rest.length + 1)⟩

/-- Digits after the point; from the first that does not fit, they are dropped. -/
def Scaled.addFraction (s : Scaled) : List Char → Scaled
  | [] => s
  | digit :: rest =>
    match s.append? digit with
    | some grown => Scaled.addFraction ⟨grown, s.power - 1⟩ rest
    | none => s

/-- The product of a double and a power of ten. Powers beyond the range of a double are divided away 308
places at a time; there is no result beyond the largest double. -/
def scale? (x : Binary64) (power : Int) : Option Binary64 :=
  -- The greatest power of ten that is a double is the three hundred and eighth.
  if power < -308 then
    if x.isZero then some x else scale? (x.div (.tenPower 308)) (power + 308)
  else if power < 0 then some (x.div (.tenPower (-power).toNat))
  else if 308 < power then
    if x.isZero then some x else none
  else
    let product := x.mul (.tenPower power.toNat)
    if product.isFinite then some product else none
termination_by (-power).toNat

/-- The double of a numeral. -/
def toDouble? (numeral : Numeral) : Option Binary64 :=
  let whole := Scaled.addWhole ⟨0, 0⟩ numeral.whole
  let all := whole.addFraction (numeral.fraction.getD [])
  (scale? (.ofNat all.significand) (all.power + numeral.exponent.getD 0)).map fun x ↦
    if numeral.negative then x.negative else x

/-- The integer of a numeral, if it is written as one that fits sixty-four bits. The numeral `-0` is no
integer. -/
def toInt? (numeral : Numeral) : Option Int :=
  if numeral.fraction.isSome || numeral.exponent.isSome then none
  else
    let magnitude := natOfDigits numeral.whole
    if numeral.negative then
      if 0 < magnitude && fitsInt64 (-magnitude) then some (-magnitude) else none
    else if fitsNat64 magnitude then some magnitude
    else none

/-- The number that a numeral writes; none if it lies beyond the largest double. -/
def value? (numeral : Numeral) : Option Number :=
  match numeral.toInt? with
  | some value => some (.int value)
  | none => numeral.toDouble?.map .double

end Numeral

/-- The number that a text writes. -/
def Number.ofChars? (text : List Char) : Option Number := (Numeral.ofChars? text).bind Numeral.value?

end Recast
