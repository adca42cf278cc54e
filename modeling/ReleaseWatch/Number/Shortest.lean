import ReleaseWatch.Number.Binary64

/-!
# Shortest decimal text

A finite number is written with the fewest decimal digits that read back as it, and of those
the nearest. The reals that read back as a number reach half way to its neighbours, ends
included when the significand is even. Exponents from -4 to 15 are written positionally, others
with an exponent mark.
-/

namespace ReleaseWatch

namespace Binary64

/-- The least real that rounds to the number, perhaps itself excluded. -/
def lowerBound (significand : Nat) (exponent : Int) : Rat :=
  if significand = leastFullSignificand ∧ leastExponent < exponent then
    (4 * significand - 1 : Nat) * powerOfTwo (exponent - 2)
  else (2 * significand - 1 : Nat) * powerOfTwo (exponent - 1)

/-- The greatest real that rounds to the number, perhaps itself excluded. -/
def upperBound (significand : Nat) (exponent : Int) : Rat :=
  (2 * significand + 1 : Nat) * powerOfTwo (exponent - 1)

/-- Whether a positive real rounds to the number. -/
def readsBack (significand : Nat) (exponent : Int) (value : Rat) : Bool :=
  let lower := lowerBound significand exponent
  let upper := upperBound significand exponent
  if significand % 2 == 0 then lower ≤ value && value ≤ upper
  else lower < value && value < upper

/-- The number of digits before the decimal point of a positive number; negative below one tenth. -/
def pointPlace (value : Rat) : Int :=
  let digits (number : Nat) : Int := (Nat.toDigits 10 number).length
  let estimate := digits value.num.natAbs - digits value.den
  if powerOfTen estimate ≤ value then estimate + 1 else estimate

/-- Of the two decimals with the given last place around a number, the nearer that reads back. -/
def nearestDecimal? (significand : Nat) (exponent : Int) (lastPlace : Int) : Option Nat :=
  let value := magnitude significand exponent
  let unit := powerOfTen lastPlace
  let below := (value / unit).floor.toNat
  let candidates : List Nat := [below, below + 1].filter fun digits : Nat =>
    readsBack significand exponent ((digits : Rat) * unit)
  match candidates with
  | [first, second] =>
      let distance := value - (first : Rat) * unit
      let distanceAbove := (second : Rat) * unit - value
      if distance < distanceAbove then some first
      else if distanceAbove < distance then some second
      else if first % 2 == 0 then some first else some second
  | [only] => some only
  | _ => none

/--
The shortest decimal that reads back, as its digits
and its last place; `tries` bounds their number.
-/
def shortestFrom (significand : Nat) (exponent : Int) (place : Int) : Nat → Nat → Nat × Int
  | 0, count => (0, place - count)
  | tries + 1, count =>
      match nearestDecimal? significand exponent (place - count) with
      | some digits => (digits, place - count)
      | none => shortestFrom significand exponent place tries (count + 1)

/-- The shortest decimal that reads back as a positive number, as its digits and its last place. -/
def shortest (significand : Nat) (exponent : Int) : Nat × Int :=
  shortestFrom significand exponent (pointPlace (magnitude significand exponent)) 18 1

/-- Drops zeros from the end of a digit text. -/
def withoutTrailingZeros (digits : List Char) : List Char :=
  (digits.reverse.dropWhile (· == '0')).reverse

/-- The text of the digits `0.d₁d₂… * 10 ^ place`. -/
def layOut (digits : List Char) (place : Int) : List Char :=
  if place ≤ -4 ∨ 16 < place then
    let mark := if place - 1 < 0 then '-' else '+'
    let size := Nat.toDigits 10 (place - 1).natAbs
    let mantissa := match digits with
      | [] => ['0']
      | [digit] => [digit]
      | digit :: rest => digit :: '.' :: rest
    mantissa ++ 'e' :: mark :: (if size.length < 2 then '0' :: size else size)
  else if place ≤ 0 then '0' :: '.' :: List.replicate (-place).toNat '0' ++ digits
  else
    let whole := digits.take place.toNat
    let fraction := digits.drop place.toNat
    whole ++ List.replicate (place.toNat - whole.length) '0' ++
      '.' :: (if fraction.isEmpty then ['0'] else fraction)

/-- The text of a number. -/
def text : Binary64 → String
  | .notANumber => "nan"
  | .infinite false => "inf"
  | .infinite true => "-inf"
  | .finite negative significand exponent =>
      let unsigned :=
        if significand = 0 then ['0', '.', '0']
        else
          let (digits, lastPlace) := shortest significand exponent
          let written := Nat.toDigits 10 digits
          layOut (withoutTrailingZeros written) (written.length + lastPlace)
      String.ofList (if negative then '-' :: unsigned else unsigned)

end Binary64

end ReleaseWatch
