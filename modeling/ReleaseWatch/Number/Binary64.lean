/-!
# Binary floating-point numbers

A number of the 64-bit binary format: a signed significand of at most 53 bits, scaled by a power
of two that is not below 2^-1074. Zero keeps its sign. `ofRat` rounds a rational number to the
nearest such number, a half to the even neighbour, and what is too large becomes infinite.
-/

namespace ReleaseWatch

/-- A number of the 64-bit binary floating-point format. -/
inductive Binary64 where
  | notANumber
  | infinite (negative : Bool)
  /-- The number `significand * 2 ^ exponent` with a sign; zero has significand 0. -/
  | finite (negative : Bool) (significand : Nat) (exponent : Int)
  deriving DecidableEq, Repr

namespace Binary64

/-- The rational number `2 ^ exponent`. -/
def powerOfTwo (exponent : Int) : Rat :=
  if 0 ≤ exponent then mkRat (Nat.pow 2 exponent.toNat) 1
  else mkRat 1 (Nat.pow 2 (-exponent).toNat)

/-- The rational number `10 ^ exponent`. -/
def powerOfTen (exponent : Int) : Rat :=
  if 0 ≤ exponent then mkRat (Nat.pow 10 exponent.toNat) 1
  else mkRat 1 (Nat.pow 10 (-exponent).toNat)

def leastExponent : Int := -1074

/-- The greatest exponent of a significand with all 53 bits in use. -/
def greatestExponent : Int := 971

/-- The least significand with all 53 bits in use. -/
def leastFullSignificand : Nat := 0x10000000000000

/-- The exponent of the greatest power of two that is not above a positive number. -/
def binaryMagnitude (value : Rat) : Int :=
  let estimate : Int := (value.num.natAbs.log2 : Int) - (value.den.log2 : Int)
  if powerOfTwo estimate ≤ value then estimate else estimate - 1

/-- The integer nearest to a nonnegative number, a half going to the even neighbour. -/
def roundHalfEven (value : Rat) : Nat :=
  let below := value.floor.toNat
  let rest := value - below
  if rest < mkRat 1 2 then below
  else if mkRat 1 2 < rest then below + 1
  else if below % 2 == 0 then below else below + 1

/-- The number of the format nearest to a sign and a nonnegative magnitude. -/
def ofRat (negative : Bool) (magnitude : Rat) : Binary64 :=
  if magnitude = 0 then .finite negative 0 0
  else
    let exponent := max (binaryMagnitude magnitude - 52) leastExponent
    let significand := roundHalfEven (magnitude / powerOfTwo exponent)
    let (significand, exponent) :=
      if significand = 2 * leastFullSignificand then (leastFullSignificand, exponent + 1)
      else (significand, exponent)
    if greatestExponent < exponent then .infinite negative
    else .finite negative significand exponent

/-- The number of the format nearest to `digits * 10 ^ exponent` with a sign. -/
def ofDecimal (negative : Bool) (digits : Nat) (exponent : Int) : Binary64 :=
  let length : Int := (Nat.toDigits 10 digits).length
  if digits = 0 then .finite negative 0 0
  else if 400 < length + exponent then .infinite negative
  else if length + exponent < -400 then .finite negative 0 0
  else ofRat negative (digits * powerOfTen exponent)

/-- The magnitude of a finite number. -/
def magnitude (significand : Nat) (exponent : Int) : Rat :=
  significand * powerOfTwo exponent

/-- The exact value of a finite number. -/
def toRat? : Binary64 → Option Rat
  | .finite negative significand exponent =>
      let value := magnitude significand exponent
      some (if negative then -value else value)
  | _ => none

/-- Whether a number is a zero of either sign. -/
def isZero : Binary64 → Bool
  | .finite _ significand _ => significand == 0
  | _ => false

/-- The integer part of a finite number, taken toward zero. -/
def truncate? : Binary64 → Option Int
  | .finite negative significand exponent =>
      let below := (magnitude significand exponent).floor
      some (if negative then -below else below)
  | _ => none

end Binary64

end ReleaseWatch
