/-!
# Blank characters

The characters that count as white space: the layout controls, the four information separators, and
the spaces and line separators of Unicode. `trim` removes them from both ends of a text.
-/

namespace ReleaseWatch

/-- Whether a code point is white space. -/
def isBlankCode (code : Nat) : Bool :=
  (0x09 ≤ code && code ≤ 0x0D) || (0x1C ≤ code && code ≤ 0x20) ||
    code == 0x85 || code == 0xA0 || code == 0x1680 || (0x2000 ≤ code && code ≤ 0x200A) ||
    code == 0x2028 || code == 0x2029 || code == 0x202F || code == 0x205F || code == 0x3000

/-- Whether a character is white space. -/
def isBlank (char : Char) : Bool :=
  isBlankCode char.toNat

/-- Removes white space from the end of a text. -/
def trimEnd (text : List Char) : List Char :=
  (text.reverse.dropWhile isBlank).reverse

/-- Removes white space from both ends of a text. -/
def trim (text : List Char) : List Char :=
  trimEnd (text.dropWhile isBlank)

end ReleaseWatch
