import ReleaseWatch.Text.Printable

/-!
# Quoted text

A text is shown between single quotes, or between double quotes when it holds single quotes only.
The backslash, the quote in use and the characters that cannot be printed are escaped.
-/

namespace ReleaseWatch

/-- The lower case hexadecimal digit of a value below sixteen. -/
def hexDigit (value : Nat) : Char :=
  if value < 10 then Char.ofNat (0x30 + value) else Char.ofNat (0x57 + value)

/-- The last `width` hexadecimal digits of a number. -/
def hexDigits : Nat → Nat → List Char
  | 0, _ => []
  | width + 1, value => hexDigits width (value / 16) ++ [hexDigit (value % 16)]

namespace Quoted

/-- The shortest numeric escape that holds a code point. -/
def numericEscape (code : Nat) : List Char :=
  if code ≤ 0xFF then '\\' :: 'x' :: hexDigits 2 code
  else if code ≤ 0xFFFF then '\\' :: 'u' :: hexDigits 4 code
  else '\\' :: 'U' :: hexDigits 8 code

/-- A character as it stands between the given quotes. -/
def escape (quote char : Char) : List Char :=
  if char = quote ∨ char = '\\' then ['\\', char]
  else if char = '\n' then ['\\', 'n']
  else if char = '\r' then ['\\', 'r']
  else if char = '\t' then ['\\', 't']
  else if isPrintable char then [char]
  else numericEscape char.toNat

/-- The quote that a text is shown with. -/
def quoteFor (text : List Char) : Char :=
  if text.contains '\x27' && !text.contains '\x22' then '\x22' else '\x27'

/-- A text between quotes. -/
def ofList (text : List Char) : List Char :=
  quoteFor text :: text.flatMap (escape (quoteFor text)) ++ [quoteFor text]

end Quoted

/-- A text between quotes, with everything escaped that cannot stand there. -/
def quoted (text : String) : String :=
  String.ofList (Quoted.ofList text.toList)

end ReleaseWatch
