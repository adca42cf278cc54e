import ReleaseWatch.Settings.Document
import ReleaseWatch.Text.Numeral
import ReleaseWatch.Failure

/-!
# Settings

What the settings document says: which feed to read and how often, the rules, and what to do with
the entries that they accept. `Settings.ofDocument` reads it, and tells what is wrong with it.
-/

namespace ReleaseWatch

/-- The rules as the document writes them. -/
structure FilterSettings where
  definitions : Mapping := []
  accept : List Value := []
  deny : List Value := []
  tieBreak : List String := ["res", "bit", "ver"]

/-- Where accepted entries go; one that does not count as true is not set. -/
structure SaveSettings where
  directory : Value := .null
  urlFile : Value := .null
  magnetFile : Value := .null

namespace SaveSettings

/-- Whether accepted entries go anywhere. -/
def isEnabled (settings : SaveSettings) : Bool :=
  settings.directory.isTruthy || settings.urlFile.isTruthy || settings.magnetFile.isTruthy

end SaveSettings

structure Settings where
  url : String
  /-- The seconds between two looks at the feed; without any the watcher looks once. -/
  poll : Int
  filters : FilterSettings
  save : SaveSettings
  logging : Mapping

def Value.toInteger : Value → Except Failure Int
  | .scalar (.bool value) => .ok (if value then 1 else 0)
  | .scalar (.int value) => .ok value
  | .scalar (.real .notANumber) => .error .notInteger
  | .scalar (.real value) =>
      match value.truncate? with
      | some integer => .ok integer
      | none => .error .infiniteInteger
  | .scalar (.text content) =>
      match Numeral.whole? content.toList with
      | some integer => .ok integer
      | none => .error .notInteger
  | _ => .error .integerOfWrongKind

/-- The plain texts of several values; the first one that has none fails. -/
def Value.toTexts : List Value → Except Failure (List String)
  | [] => .ok []
  | value :: rest => do
      let text ← value.toText
      let others ← toTexts rest
      return text :: others

namespace Settings

/-- A section of a document that has to be a mapping; one that does not count as true is empty. -/
def mappingSection (value : Value) (problem : ConfigurationProblem) : Except Failure Mapping :=
  if value.isTruthy then
    match value with
    | .mapping fields => .ok fields
    | _ => .error (.configuration problem)
  else .ok []

/-- A section of a document that has to be a list of rules. -/
def ruleSection (document : Mapping) (name : String) : Except Failure (List Value) :=
  if (document.get name).isTruthy then
    match document.get name with
    | .list rules => .ok rules
    | _ => .error (.configuration (.rulesNotList name))
  else .ok []

/-- The keys of the tie-break section, or the usual ones where it is left open. -/
def tieBreakSection : Value → Except Failure (List Value)
  | .null => .ok [.text "res", .text "bit", .text "ver"]
  | .list keys => .ok keys
  | _ => .error (.configuration .tieBreakNotList)

def feedSection (value : Value) : Except Failure Value :=
  if value.isTruthy then .ok value else .error (.configuration .feedMissing)

/-- The seconds between two looks at the feed; only infinity is a failure of its own. -/
def pollSection (value : Value) : Except Failure Int :=
  if value.isTruthy then
    match value.toInteger with
    | .ok seconds => .ok seconds
    | .error .infiniteInteger => .error .infiniteInteger
    | .error _ => .error (.configuration .pollNotNumber)
  else .ok 0

def saveSection : Value → SaveSettings
  | .mapping fields =>
      { directory := Mapping.get fields "dir"
        urlFile := Mapping.get fields "urlfile"
        magnetFile := Mapping.get fields "magnetfile" }
  | _ => {}

/--
The settings that a document without annotations states. What is written as text is written last:
the feed before the rules are looked at, the tie-break keys behind them.
-/
def ofFields (document : Mapping) : Except Failure Settings := do
  let definitions ← mappingSection (document.get "defines") .definesNotMapping
  let keys ← tieBreakSection (document.get "tie_break")
  let feed ← feedSection (document.get "rss")
  let poll ← pollSection (document.get "poll")
  let logging ← mappingSection (document.get "logging") .loggingNotMapping
  let url ← feed.toText
  let accept ← ruleSection document "accept"
  let deny ← ruleSection document "deny"
  let tieBreak ← Value.toTexts keys
  return {
    url, poll, logging
    filters := { definitions, accept, deny, tieBreak }
    save := saveSection (document.get "save") }

def ofDocument : Value → Except Failure Settings
  | .mapping fields => ofFields (Value.fieldsWithoutAnnotations fields)
  | _ => .error (.configuration .documentNotMapping)

end Settings

end ReleaseWatch
