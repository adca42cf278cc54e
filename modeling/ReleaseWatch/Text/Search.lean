/-!
# Searching texts

A reader looks at the start of a text. `firstMatch?` tries a reader at every place from left to
right, and `replaceAll` puts one text in the place of another wherever that stands.
-/

namespace ReleaseWatch

/-- What a reader makes of the first place where it reads something. -/
def firstMatch? {α : Type} (reader : List Char → Option α) : List Char → Option α
  | [] => reader []
  | char :: rest =>
      match reader (char :: rest) with
      | some found => some found
      | none => firstMatch? reader rest

/-- Puts `new` for every `old`, from left to right and without looking at what was put. -/
def replaceAll (old new : List Char) (text : List Char) : List Char :=
  match text with
  | [] => []
  | char :: rest =>
      if old.isPrefixOf (char :: rest) then
        new ++ replaceAll old new (rest.drop (old.length - 1))
      else char :: replaceAll old new rest
termination_by text.length

/-- Splits a text behind its longest start whose characters all pass a test. -/
def splitRun (test : Char → Bool) (text : List Char) : List Char × List Char :=
  (text.takeWhile test, text.dropWhile test)

end ReleaseWatch
