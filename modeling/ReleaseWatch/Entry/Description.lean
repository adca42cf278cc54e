import ReleaseWatch.Text.Blank
import ReleaseWatch.Text.Numeral
import ReleaseWatch.Text.Search

/-!
# Descriptions

Trackers put most of what they know into the description of an item, each fact behind a label of
its own. The facts are looked for independently, each at the first place where it can be read, and
one that is not found is left out.
-/

namespace ReleaseWatch

namespace Description

/-- Reads a nonempty text up to the quote behind it. -/
def readQuoted? (text : List Char) : Option (List Char × List Char) :=
  match splitRun (· != '\x22') text with
  | ([], _) => none
  | (content, '\x22' :: rest) => some (content, rest)
  | _ => none

/-- Reads the address in the link behind the torrent label. -/
def readTorrent? (text : List Char) : Option String := do
  let rest ← "Torrent: <a href=\x22".toList.isPrefixOf? text
  let (url, rest) ← readQuoted? rest
  match rest with
  | '>' :: _ => return String.ofList url
  | _ => none

/-- Reads a magnet address that some link leads to. -/
def readMagnet? (text : List Char) : Option String := do
  let rest ← "href=\x22magnet:".toList.isPrefixOf? text
  let (address, _) ← readQuoted? rest
  return String.ofList ("magnet:".toList ++ address)

/-- Splits a decimal fraction from the start of a text. -/
def splitFraction : List Char → List Char × List Char
  | '.' :: rest =>
      match splitRun isDigit rest with
      | ([], _) => ([], '.' :: rest)
      | (digits, rest) => ('.' :: digits, rest)
  | text => ([], text)

/-- Splits one character that passes a test from the start of a text. -/
def splitOne (test : Char → Bool) : List Char → List Char × List Char
  | char :: rest => if test char then ([char], rest) else ([], char :: rest)
  | [] => ([], [])

/-- Whether a character is the letter of a binary or decimal multiple. -/
def isMultiple (char : Char) : Bool :=
  ['K', 'M', 'G', 'T', 'P'].contains char

/--
Reads an amount of bytes: digits, a fraction, one blank, the letter of a multiple, and the unit.
-/
def readAmount? (text : List Char) : Option (List Char) :=
  match splitRun isDigit text with
  | ([], _) => none
  | (whole, rest) =>
      let (fraction, rest) := splitFraction rest
      let (gap, rest) := splitOne isBlank rest
      let (multiple, rest) := splitOne isMultiple rest
      let (binary, rest) := splitOne (· == 'i') rest
      match rest with
      | 'B' :: _ => some (whole ++ fraction ++ gap ++ multiple ++ binary ++ ['B'])
      | _ => none

/-- Reads the amount behind the size label. -/
def readSize? (text : List Char) : Option String := do
  let rest ← "Size: ".toList.isPrefixOf? text
  let amount ← readAmount? rest
  return String.ofList amount

/-- Reads the rest of the line behind the comment label. -/
def readComment? (text : List Char) : Option String := do
  let rest ← "Comment: ".toList.isPrefixOf? text
  return String.ofList (rest.takeWhile (· != '\n'))

/-- Reads the mark of an authorized release. -/
def readAuthorized? (text : List Char) : Option Unit :=
  ("Authorized: Yes".toList.isPrefixOf? text).map fun _ => ()

/-- The address behind the torrent label. -/
def torrent? (description : String) : Option String :=
  firstMatch? readTorrent? description.toList

/-- The first magnet address. -/
def magnet? (description : String) : Option String :=
  firstMatch? readMagnet? description.toList

/-- The amount behind the size label. -/
def size? (description : String) : Option String :=
  firstMatch? readSize? description.toList

/-- The line behind the comment label. -/
def comment? (description : String) : Option String :=
  firstMatch? readComment? description.toList

/-- Whether the release is marked as authorized. -/
def authorized (description : String) : Bool :=
  (firstMatch? readAuthorized? description.toList).isSome

end Description

end ReleaseWatch
