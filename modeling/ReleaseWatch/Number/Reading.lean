import ReleaseWatch.Number.Binary64

/-!
# Reading decimal numbers

A decimal number is an optional minus sign, digits with an optional point among them, and an
optional exponent. The words for the infinities and for the undefined number are read as well.
-/

namespace ReleaseWatch

namespace Binary64

/-- The value of a run of the digits 0 to 9. -/
def digitRun (digits : List Char) : Nat :=
  digits.foldl (fun value digit => 10 * value + (digit.toNat - 0x30)) 0

/-- The exponent behind an exponent mark, or zero without one. -/
def readExponent? : List Char → Option Int
  | [] => some 0
  | mark :: rest =>
      if mark != 'e' && mark != 'E' then none
      else
        let (negative, digits) := match rest with
          | '-' :: digits => (true, digits)
          | '+' :: digits => (false, digits)
          | digits => (false, digits)
        if digits.isEmpty || !digits.all Char.isDigit then none
        else some (if negative then -(digitRun digits : Int) else digitRun digits)

/-- The number that a decimal text without a sign denotes. -/
def readUnsigned? (negative : Bool) (text : List Char) : Option Binary64 :=
  let whole := text.takeWhile Char.isDigit
  let afterWhole := text.dropWhile Char.isDigit
  let (fraction, afterFraction) := match afterWhole with
    | '.' :: rest => (rest.takeWhile Char.isDigit, rest.dropWhile Char.isDigit)
    | rest => ([], rest)
  if whole.isEmpty && fraction.isEmpty then none
  else (readExponent? afterFraction).map fun exponent =>
    ofDecimal negative (digitRun (whole ++ fraction)) (exponent - fraction.length)

/-- The number that a decimal text denotes. -/
def read? (text : String) : Option Binary64 :=
  let (negative, unsigned) := match text.toList with
    | '-' :: rest => (true, rest)
    | rest => (false, rest)
  if unsigned = ['i', 'n', 'f'] then some (.infinite negative)
  else if unsigned = ['n', 'a', 'n'] then some .notANumber
  else readUnsigned? negative unsigned

end Binary64

end ReleaseWatch
