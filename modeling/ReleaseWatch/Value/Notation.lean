import ReleaseWatch.Number.Reading
import ReleaseWatch.Value.Basic

/-!
# Plain notation of values

Values are read from plain notation: words for null and the truth values, numbers, texts between
double quotes, lists between brackets and mappings with text keys between braces. A number with a
point or an exponent is a floating-point number, any other is an integer.
-/

namespace ReleaseWatch

namespace Notation

/-- Whether a character may stand between the parts of a value. -/
def isSpace (char : Char) : Bool :=
  char == ' ' || char == '\t' || char == '\n' || char == '\r'

/-- The value of a hexadecimal digit. -/
def hexValue? (char : Char) : Option Nat :=
  let code := char.toNat
  if 0x30 ≤ code && code ≤ 0x39 then some (code - 0x30)
  else if 0x41 ≤ code && code ≤ 0x46 then some (code - 0x37)
  else if 0x61 ≤ code && code ≤ 0x66 then some (code - 0x57)
  else none

/-- The number that four hexadecimal digits write. -/
def hexQuad? (first second third fourth : Char) : Option Nat := do
  return 4096 * (← hexValue? first) + 256 * (← hexValue? second) + 16 * (← hexValue? third) +
    (← hexValue? fourth)

/-- The character that a single letter stands for behind a backslash. -/
def shortEscape? : Char → Option Char
  | 'n' => some '\n'
  | 't' => some '\t'
  | 'r' => some '\r'
  | 'b' => some '\x08'
  | 'f' => some '\x0c'
  | '\x22' => some '\x22'
  | '\\' => some '\\'
  | '/' => some '/'
  | _ => none

/-- Whether a code is the first half of a pair. -/
def isHighHalf (code : Nat) : Bool := 0xD800 ≤ code && code ≤ 0xDBFF

/-- The code point that two halves make. -/
def joinHalves (high low : Nat) : Nat :=
  0x10000 + 1024 * (high - 0xD800) + (low - 0xDC00)

/-- Reads the rest of a text up to its closing quote. -/
def readText? (text : List Char) : Option (List Char × List Char) :=
  match text with
  | [] => none
  | '\x22' :: rest => some ([], rest)
  | '\\' :: 'u' :: a :: b :: c :: d :: '\\' :: 'u' :: e :: f :: g :: h :: rest => do
      let first ← hexQuad? a b c d
      let second ← hexQuad? e f g h
      if isHighHalf first then
        let (content, rest) ← readText? rest
        return (Char.ofNat (joinHalves first second) :: content, rest)
      else
        let (content, rest) ← readText? ('\\' :: 'u' :: e :: f :: g :: h :: rest)
        return (Char.ofNat first :: content, rest)
  | '\\' :: 'u' :: a :: b :: c :: d :: rest => do
      let code ← hexQuad? a b c d
      let (content, rest) ← readText? rest
      return (Char.ofNat code :: content, rest)
  | '\\' :: letter :: rest => do
      let char ← shortEscape? letter
      let (content, rest) ← readText? rest
      return (char :: content, rest)
  | char :: rest => do
      let (content, rest) ← readText? rest
      return (char :: content, rest)
termination_by text.length
decreasing_by all_goals simp_wf <;> omega

/-- Whether a character may stand in a number. -/
def isNumberChar (char : Char) : Bool :=
  char.isDigit || char == '-' || char == '+' || char == '.' || char == 'e' || char == 'E'

/-- The number that a text writes. -/
def readNumber? (text : List Char) : Option Value :=
  if text.any fun char => char == '.' || char == 'e' || char == 'E' then
    (Binary64.read? (String.ofList text)).map fun number => .scalar (.real number)
  else
    let (negative, digits) := match text with
      | '-' :: digits => (true, digits)
      | digits => (false, digits)
    if digits.isEmpty || !digits.all Char.isDigit then none
    else
      let magnitude : Int := Binary64.digitRun digits
      some (.int (if negative then -magnitude else magnitude))

/-- Reads a word or a number. -/
def readSimple? (text : List Char) : Option (Value × List Char) :=
  match "null".toList.isPrefixOf? text with
  | some rest => some (.null, rest)
  | none =>
      match "true".toList.isPrefixOf? text with
      | some rest => some (.bool true, rest)
      | none =>
          match "false".toList.isPrefixOf? text with
          | some rest => some (.bool false, rest)
          | none =>
              (readNumber? (text.takeWhile isNumberChar)).map fun number =>
                (number, text.dropWhile isNumberChar)

mutual

/-- Reads a value; `depth` bounds the steps. -/
def readValue? : Nat → List Char → Option (Value × List Char)
  | 0, _ => none
  | depth + 1, text =>
      match text.dropWhile isSpace with
      | '\x22' :: rest => (readText? rest).map fun (content, rest) =>
          (.text (String.ofList content), rest)
      | '[' :: rest =>
          match rest.dropWhile isSpace with
          | ']' :: rest => some (.list [], rest)
          | rest => (readItems? depth rest).map fun (items, rest) => (.list items, rest)
      | '\x7b' :: rest =>
          match rest.dropWhile isSpace with
          | '\x7d' :: rest => some (.mapping [], rest)
          | rest => (readFields? depth rest).map fun (fields, rest) => (.mapping fields, rest)
      | simple => readSimple? simple

/-- Reads the elements of a list up to its closing bracket. -/
def readItems? : Nat → List Char → Option (List Value × List Char)
  | 0, _ => none
  | depth + 1, text => do
      let (item, rest) ← readValue? depth text
      match rest.dropWhile isSpace with
      | ',' :: rest =>
          let (items, rest) ← readItems? depth rest
          return (item :: items, rest)
      | ']' :: rest => return ([item], rest)
      | _ => none

/-- Reads the entries of a mapping up to its closing brace. -/
def readFields? : Nat → List Char → Option (Mapping × List Char)
  | 0, _ => none
  | depth + 1, text =>
      match text.dropWhile isSpace with
      | '\x22' :: rest => do
          let (key, rest) ← readText? rest
          match rest.dropWhile isSpace with
          | ':' :: rest => do
              let (value, rest) ← readValue? depth rest
              let field := (Scalar.text (String.ofList key), value)
              match rest.dropWhile isSpace with
              | ',' :: rest =>
                  let (fields, rest) ← readFields? depth rest
                  return (field :: fields, rest)
              | '\x7d' :: rest => return ([field], rest)
              | _ => none
          | _ => none
      | _ => none

end

/-- The value that a whole text writes. -/
def value? (text : String) : Option Value :=
  match readValue? (2 * text.length + 2) text.toList with
  | some (value, rest) => if rest.all isSpace then some value else none
  | none => none

end Notation

end ReleaseWatch
