import ReleaseWatch.Text.CharacterName.Alias
import ReleaseWatch.Text.CharacterName.From0000
import ReleaseWatch.Text.CharacterName.From1000
import ReleaseWatch.Text.CharacterName.From2000
import ReleaseWatch.Text.CharacterName.From3000
import ReleaseWatch.Text.CharacterName.FromF000
import ReleaseWatch.Text.CharacterName.From11000
import ReleaseWatch.Text.CharacterName.From14000
import ReleaseWatch.Text.CharacterName.From1B000
import ReleaseWatch.Text.CharacterName.From1D000
import ReleaseWatch.Text.CharacterName.From1E000
import ReleaseWatch.Text.CharacterName.From20000
import ReleaseWatch.Text.CodeRange

/-!
# Characters by name

Every character has a name in capital letters; a few have others besides. A name list is made of
entries between semicolons. An entry behind an at sign is the code point of the next name in
hexadecimal, and any other entry is the name of the code point after the last one: a digit tells
how many words it shares with the name before it, and the words that follow are its own.

Most ideographs are named by their code points, and Korean syllables by their letters.
-/

namespace ReleaseWatch

namespace CharacterName

/-- A name as its words. -/
abbrev Words := List String

/-- The value of hexadecimal digits in capital letters. -/
def hexValue? (digits : List Char) : Option Nat :=
  digits.foldlM (fun value digit =>
    if digit.isDigit then some (16 * value + (digit.toNat - '0'.toNat))
    else if 'A' ≤ digit && digit ≤ 'F' then some (16 * value + (digit.toNat - 'A'.toNat + 10))
    else none) 0

/--
The code point that entries of a name list give to a name, given that of the next name and the
words of the last one.
-/
def findFrom (wanted : Words) (code : Nat) (words : Words) : List String → Option Nat
  | [] => none
  | entry :: rest =>
      match entry.toList with
      | [] => findFrom wanted code words rest
      | '@' :: digits => findFrom wanted ((hexValue? digits).getD code) words rest
      | shared :: own =>
          let words :=
            words.take (shared.toNat - '0'.toNat) ++ (String.ofList own).splitOn " "
          if words = wanted then some code else findFrom wanted (code + 1) words rest

/-- The code point that the lines of a name list give to a name. -/
def findIn (wanted : Words) (lines : List String) : Option Nat :=
  findFrom wanted 0 [] (lines.flatMap (·.splitOn ";"))

/-- The name lists. -/
def lists : List (List String) :=
  [aliases, from0000, from1000, from2000, from3000, fromF000, from11000,
   from14000, from1B000, from1D000, from1E000, from20000]

/-- The code points of the ideographs that are named by their code points. -/
def ideographs : CodeRanges :=
  [(0x3400, 0x4DBF), (0x4E00, 0x9FFF), (0x20000, 0x2A6DF), (0x2A700, 0x2B738),
   (0x2B740, 0x2B81D), (0x2B820, 0x2CEA1), (0x2CEB0, 0x2EBE0), (0x30000, 0x3134A)]

/-- The code point of an ideograph, by the digits at the end of its name. -/
def ideograph? (digits : List Char) : Option Nat :=
  if digits.length = 4 || digits.length = 5 then
    (hexValue? digits).filter ideographs.contains
  else none

/-- The first letters of Korean syllables. -/
def leads : List String :=
  ["G", "GG", "N", "D", "DD", "R", "M", "B", "BB", "S", "SS", "", "J", "JJ", "C", "K", "T", "P",
   "H"]

/-- The vowels of Korean syllables. -/
def vowels : List String :=
  ["A", "AE", "YA", "YAE", "EO", "E", "YEO", "YE", "O", "WA", "WAE", "OE", "YO", "U", "WEO", "WE",
   "WI", "YU", "EU", "YI", "I"]

/-- The last letters of Korean syllables. -/
def tails : List String :=
  ["", "G", "GG", "GS", "N", "NJ", "NH", "D", "L", "LG", "LM", "LB", "LS", "LT", "LP", "LH", "M",
   "B", "BS", "S", "SS", "NG", "J", "C", "K", "T", "P", "H"]

/--
The place among some letters of the longest one that a text starts with, and the rest of the text.
-/
def longestLetter? (letters : List String) (text : List Char) : Option (Nat × List Char) :=
  let starts := letters.zipIdx.filter fun (letter, _) => letter.toList.isPrefixOf text
  let longest := starts.foldl (fun best candidate =>
    match best with
    | none => some candidate
    | some known => if known.1.length < candidate.1.length then some candidate else some known) none
  longest.map fun (letter, index) => (index, text.drop letter.length)

/-- The code point of a Korean syllable, by its letters. -/
def syllable? (text : List Char) : Option Nat := do
  let (lead, text) ← longestLetter? leads text
  let (vowel, text) ← longestLetter? vowels text
  let (tail, text) ← longestLetter? tails text
  if text.isEmpty then
    some (0xAC00 + (lead * vowels.length + vowel) * tails.length + tail)
  else none

/-- The code point of the character with a name, which may be written in small letters. -/
def code? (name : String) : Option Nat :=
  if name.startsWith "HANGUL SYLLABLE " then syllable? (name.toList.drop 16)
  else if name.startsWith "CJK UNIFIED IDEOGRAPH-" then ideograph? (name.toList.drop 22)
  else lists.findSome? (findIn (name.toUpper.splitOn " "))

end CharacterName

end ReleaseWatch
