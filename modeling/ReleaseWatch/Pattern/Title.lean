import ReleaseWatch.Failure
import ReleaseWatch.Info
import ReleaseWatch.Pattern.Reading
import ReleaseWatch.Pattern.Search

/-!
# Title patterns

A title pattern may open a named group with `(?<name>` as well as with `(?P<name>`; the first form
is turned into the second. What the named groups take makes the info of a release.
-/

namespace ReleaseWatch

/-- Whether a character may start the name in the short form of a named group. -/
def startsGroupName (char : Char) : Bool :=
  ('A' ≤ char && char ≤ 'Z') || ('a' ≤ char && char ≤ 'z') || char == '_'

/--
Turns the short form of named groups into the long one; `escaped` tells of a backslash before.
-/
def expandGroupNames (escaped : Bool) : List Char → List Char
  | '(' :: '?' :: '<' :: next :: rest =>
      if !escaped && startsGroupName next then
        '(' :: '?' :: 'P' :: '<' :: expandGroupNames false (next :: rest)
      else '(' :: expandGroupNames false ('?' :: '<' :: next :: rest)
  | char :: rest => char :: expandGroupNames (char == '\\') rest
  | [] => []

/-- A pattern for titles, together with its text. -/
structure TitlePattern where
  text : String
  pattern : Pattern

namespace TitlePattern

/-- Reads a title pattern; the name of its rule serves the message. -/
def ofText (text rule : String) : Except Failure TitlePattern :=
  let expanded := String.ofList (expandGroupNames false text.toList)
  match Pattern.ofText expanded with
  | .ok pattern => .ok { text := expanded, pattern }
  | .error .malformed => .error (.configuration (.invalidTitle text rule))
  | .error .repetitionTooLarge => .error .repetitionTooLarge
  | .error .numeralTooLong => .error .numeralTooLong
  | .error .conflictingAlphabets => .error .conflictingAlphabets

def search? (title : TitlePattern) (text : String) : Option Match :=
  title.pattern.search? text

end TitlePattern

/-- The integer at the start of a text; zero without one. -/
def leadingInteger (text : String) : Except Failure Int :=
  match Numeral.leading? text.toList with
  | none => .ok 0
  | some numeral =>
      match numeral.value? with
      | some value => .ok value
      | none => .error .numeralTooLong

/-- What the named groups of a pattern took; a group that took nothing has no text. -/
abbrev Captures := List (String × Option String)

namespace Captures

/-- The text that a group took, if there is such a group and it took something. -/
def text? (captures : Captures) (name : String) : Option String :=
  (captures.lookup name).join

def hasGroup (captures : Captures) (name : String) : Bool :=
  (captures.lookup name).isSome

/-- The number that a group took; -1 if it took nothing. -/
def number (taken : Option String) : Except Failure Int :=
  match taken with
  | none => .ok (-1)
  | some text => leadingInteger text

/--
The text of the last episode: that of its own group unless this took nothing or the empty text.
-/
def lastEpisode? (captures : Captures) : Option String :=
  match captures.text? "endep" with
  | none | some "" => captures.text? "ep"
  | some text => some text

/-- The info that the groups of a match make. -/
def info (captures : Captures) : Except Failure Info := do
  let ep ← number (captures.text? "ep")
  let endep ← number captures.lastEpisode?
  let ver ← number (captures.text? "ver")
  let res ← number (captures.text? "res")
  let bit ← number (captures.text? "bit")
  return {
    name := captures.text? "name"
    ep, endep, ver
    crc := captures.text? "crc"
    group := captures.text? "group"
    res, bit
    captured := (InfoKey.captured.map InfoKey.label).filter captures.hasGroup }

end Captures

end ReleaseWatch
