/-!
Contract: decimal numbers as double precision values, and back.

A finite value is a mantissa below 2^53 times a power of two. A decimal number is rounded to the
nearest value, and a tie to the even one. A value is written with the fewest digits that round to
it, as a positional number.

Owns: rounding, the shortest digits, and the positional form.
-/

namespace FunctionAtlas.Decimal

/-- A finite value of double precision: `mantissa * 2 ^ exponent`, with a sign. -/
structure Binary64 where
  isNegative : Bool
  mantissa : Nat
  exponent : Int
deriving DecidableEq, Repr

/-- A quotient of natural numbers. -/
structure Ratio where
  numerator : Nat
  denominator : Nat

namespace Ratio

/-- A quotient times a power of a base. -/
def scale (ratio : Ratio) (base : Nat) (exponent : Int) : Ratio :=
  if 0 ≤ exponent then { ratio with numerator := ratio.numerator * Nat.pow base exponent.toNat }
  else { ratio with denominator := ratio.denominator * Nat.pow base (-exponent).toNat }

/-- The nearest natural number, and the even one of two. -/
def round (ratio : Ratio) : Nat :=
  let quotient := ratio.numerator / ratio.denominator
  let twice := 2 * (ratio.numerator % ratio.denominator)
  if twice < ratio.denominator then quotient
  else if ratio.denominator < twice then quotient + 1
  else quotient + quotient % 2

def less (left right : Ratio) : Bool :=
  left.numerator * right.denominator < right.numerator * left.denominator

def lessOrEqual (left right : Ratio) : Bool := !right.less left

end Ratio

namespace Binary64

/-- The least exponent. -/
def leastExponent : Int := -1074

/-- The greatest exponent. -/
def greatestExponent : Int := 971

/-- The exponent of the value nearest to a quotient: the one that leaves 53 binary digits before
the point, if it is not too small. -/
def exponentFor (ratio : Ratio) : Int :=
  let estimate : Int := (ratio.numerator.log2 : Int) - (ratio.denominator.log2 : Int) - 52
  let isBelow := (ratio.scale 2 (-estimate)).less ⟨Nat.pow 2 52, 1⟩
  let exponent := if isBelow then estimate - 1 else estimate
  max exponent leastExponent

/-- The value nearest to `digits * 10 ^ exponent`, if it is not too large. -/
def ofDecimal (isNegative : Bool) (digits : Nat) (exponent : Int) : Option Binary64 :=
  let magnitude : Int := (digits.log2 : Int) * 3 / 10 + exponent
  if digits = 0 || magnitude < -400 then some ⟨isNegative, 0, leastExponent⟩
  else if 400 < magnitude then none
  else
    let ratio := Ratio.scale ⟨digits, 1⟩ 10 exponent
    let power := exponentFor ratio
    let mantissa := (ratio.scale 2 (-power)).round
    let (mantissa, power) :=
      if mantissa = Nat.pow 2 53 then (Nat.pow 2 52, power + 1) else (mantissa, power)
    if greatestExponent < power then none else some ⟨isNegative, mantissa, power⟩

/-! ## Shortest digits -/

/-- The absolute value. -/
def ratio (value : Binary64) : Ratio := Ratio.scale ⟨value.mantissa, 1⟩ 2 value.exponent

/-- Whether a quotient rounds to a value: it lies between the middles to the neighbours. -/
def roundsFrom (value : Binary64) (ratio : Ratio) : Bool :=
  let isBoundary := value.mantissa = Nat.pow 2 52 && leastExponent < value.exponent
  let low :=
    if isBoundary then Ratio.scale ⟨4 * value.mantissa - 1, 1⟩ 2 (value.exponent - 2)
    else Ratio.scale ⟨2 * value.mantissa - 1, 1⟩ 2 (value.exponent - 1)
  let high := Ratio.scale ⟨2 * value.mantissa + 1, 1⟩ 2 (value.exponent - 1)
  if value.mantissa % 2 = 0 then low.lessOrEqual ratio && ratio.lessOrEqual high
  else low.less ratio && ratio.less high

/-- The exponent of the first digit of a quotient, from an estimate that is not too small. -/
def leadingExponent (ratio : Ratio) : Nat → Int → Int
  | 0, estimate => estimate
  | fuel + 1, estimate =>
      if ratio.less (Ratio.scale ⟨1, 1⟩ 10 estimate) then leadingExponent ratio fuel (estimate - 1)
      else estimate

/-- The digits, as a number, and the exponent of the shortest decimal that rounds to a value, with
at least so many digits. Of two with as many digits, the nearer one is taken. -/
def shortestFrom (value : Binary64) (leading : Int) : Nat → Nat → Nat × Int
  | 0, count =>
      let exponent := leading - (count : Int) + 1
      ((value.ratio.scale 10 (-exponent)).round, exponent)
  | fuel + 1, count =>
      let exponent := leading - (count : Int) + 1
      let scaled := value.ratio.scale 10 (-exponent)
      let below := scaled.numerator / scaled.denominator
      let fits := fun (digits : Nat) => value.roundsFrom (Ratio.scale ⟨digits, 1⟩ 10 exponent)
      match fits below, fits (below + 1) with
      | true, true => (scaled.round, exponent)
      | true, false => (below, exponent)
      | false, true => (below + 1, exponent)
      | false, false => shortestFrom value leading fuel (count + 1)

/-- Drops a zero at the end of the digits. -/
def dropZero (decimal : Nat × Int) : Nat × Int :=
  if decimal.1 % 10 = 0 then (decimal.1 / 10, decimal.2 + 1) else decimal

/-- The shortest decimal that rounds to a value. Seventeen digits are always enough. The first
digit may be rounded up to ten, which leaves a zero to drop. -/
def shortest (value : Binary64) : Nat × Int :=
  if value.mantissa = 0 then (0, 0)
  else dropZero (shortestFrom value (leadingExponent value.ratio 700 310) 17 1)

/-- A value in positional form, with a digit after the point at least. -/
def display (value : Binary64) : String :=
  let (digits, exponent) := value.shortest
  let text := toString digits
  let body :=
    if 0 ≤ exponent then text ++ "".pushn '0' exponent.toNat ++ ".0"
    else
      let places := (-exponent).toNat
      let padded := "".pushn '0' (places + 1 - text.length) ++ text
      let characters := padded.toList
      String.ofList (characters.take (characters.length - places)) ++ "." ++
        String.ofList (characters.drop (characters.length - places))
  (if value.isNegative then "-" else "") ++ body

end Binary64

end FunctionAtlas.Decimal
