import ReleaseWatch.Entry.Basic
import ReleaseWatch.Text.Blank

/-!
# Reports

The one-line report of an accepted entry, and the name of the file that its download is kept in.
-/

namespace ReleaseWatch

namespace Info

/-- The parts of a label behind the name, those that the title did not give left out. -/
def labelParts (info : Info) : List String :=
  let episodes :=
    if info.ep < 0 then []
    else if info.endep = info.ep then ["ep " ++ toString info.ep]
    else ["ep " ++ toString info.ep ++ "-" ++ toString info.endep]
  let version := if info.ver < 0 then [] else ["v" ++ toString info.ver]
  let resolution := if info.res < 0 then [] else [toString info.res ++ "p"]
  let depth := if info.bit < 0 then [] else [toString info.bit ++ "bit"]
  let group := match info.group with
    | none | some "" => []
    | some group => ["[" ++ group ++ "]"]
  let checksum := match info.crc with
    | none | some "" => []
    | some crc => ["(" ++ crc ++ ")"]
  episodes ++ version ++ resolution ++ depth ++ group ++ checksum

/-- A compact label of a release, empty for one without a name. -/
def label : Option Info → String
  | none => ""
  | some info =>
      match info.name with
      | none => ""
      | some name => " ".intercalate (name :: info.labelParts)

end Info

namespace Entry

/-- A title, or the word for its absence. -/
def titleText (entry : Entry) : String :=
  entry.title.getD "None"

/-- The line that reports an accepted entry. -/
def report (entry : Entry) : String :=
  let line := "Accepted \"" ++ entry.titleText ++ "\" (" ++ entry.link ++ ")"
  let label := Info.label entry.info
  if label = "" then line else line ++ " as " ++ label

/-- The name of an entry's download: its title without path separators, or else its number. -/
def downloadName (entry : Entry) : Except Failure String :=
  match entry.title with
  | none => .error .textExpected
  | some title =>
      let safe := trim (title.toList.map fun char => if char = '/' then '_' else char)
      let stem := if safe.isEmpty then idText entry.id else String.ofList safe
      .ok (stem ++ ".torrent")

end Entry

end ReleaseWatch
