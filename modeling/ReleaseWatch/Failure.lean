import ReleaseWatch.Value.Text

/-!
# Failures

Everything that can go wrong, told apart by cause. `Failure.message` words the causes that
are reported to the reader of the log; the others are defects of the data or the
surroundings and carry no text. Where a message ends in the wording of another component,
`otherWording` stands for it.
-/

namespace ReleaseWatch

/-- What stands in a message for the wording of another component. -/
def otherWording : String := "<cause>"

/-- Why the settings or the rules cannot be used as written. -/
inductive ConfigurationProblem where
  /-- A call gives fewer arguments than its text asks for; the name is missing outside of a call. -/
  | argumentMissing (index : Nat) (text : String) (name : Option Scalar)
  | ruleNotMapping (kind : String)
  /-- A definition leads back to itself along the names in the chain. -/
  | definitionCycle (chain : List String)
  | definitionNotMapping (name : Scalar) (kind : String)
  | emptyRule (rule : String)
  | selectorNotText (rule : String) (selector : Scalar)
  /-- A title pattern cannot be read; the rule name is empty for a pattern on its own. -/
  | invalidTitle (pattern : String) (rule : String)
  | unknownTieBreak (keys : List String)
  /-- A selector is neither a field nor a named group of the rule's title pattern. -/
  | unboundSelector (selector : String) (rule : String) (subject : String)
  | documentNotMapping
  | definesNotMapping
  | tieBreakNotList
  | feedMissing
  | pollNotNumber
  | loggingNotMapping
  | rulesNotList (section_ : String)
  | unreadableDocument (path : String)
  deriving DecidableEq

namespace ConfigurationProblem

def message : ConfigurationProblem → String
  | .argumentMissing index text name =>
      let place := match name with
        | some name => " in macro " ++ name.shown
        | none => ""
      "Argument $" ++ toString index ++ " to " ++ quoted text ++ place ++ " was not provided"
  | .ruleNotMapping kind => "Don't know how to deal with a rule of type " ++ kind
  | .definitionCycle chain => "Macro cycle detected: " ++ " -> ".intercalate chain
  | .definitionNotMapping name kind =>
      "Macro " ++ name.shown ++ " must be a string or a mapping, got " ++ kind
  | .emptyRule rule => "Rule " ++ rule ++ " is empty"
  | .selectorNotText rule selector =>
      "Rule " ++ rule ++ " has a non-string selector " ++ selector.shown
  | .invalidTitle pattern rule =>
      let place := if rule = "" then "" else " in rule " ++ rule
      "Invalid title regexp " ++ quoted pattern ++ place ++ ": " ++ otherWording
  | .unknownTieBreak keys => "Unknown tie_break key(s): " ++ ", ".intercalate keys
  | .unboundSelector selector rule subject =>
      "Selector " ++ quoted selector ++ " in rule " ++ rule ++
        " is neither a standard selector nor a named capture in the title regexp (" ++
          subject ++ ")"
  | .documentNotMapping => "Config document must be a mapping"
  | .definesNotMapping => "'defines' must be a mapping of macro names"
  | .tieBreakNotList => "'tie_break' must be a list of keys"
  | .feedMissing => "'rss' feed URL is required"
  | .pollNotNumber => "'poll' must be a number of seconds: " ++ otherWording
  | .loggingNotMapping => "'logging' must be a mapping"
  | .rulesNotList section_ => "'" ++ section_ ++ "' must be a list of rules"
  | .unreadableDocument path => "Cannot parse " ++ path ++ ": " ++ otherWording

end ConfigurationProblem

/-- Why an entry lacks what its reader needs. -/
inductive ExtractionProblem where
  | idMissing (guid : String)
  /-- An entry without a number cannot be put in order; its title and guid are given. -/
  | orderMissing (title : Option String) (guid : String)
  deriving DecidableEq

/-- A title in quotes, or the word for its absence. -/
def quotedTitle : Option String → String
  | some title => quoted title
  | none => "None"

namespace ExtractionProblem

def message : ExtractionProblem → String
  | .idMissing guid => "No numeric id in guid " ++ quoted guid
  | .orderMissing title guid =>
      "Entry " ++ quotedTitle title ++ " (guid " ++ quoted guid ++ ") has no id to order by"

end ExtractionProblem

/-- Why the feed could not be had. -/
inductive FetchProblem where
  | unreachable (url : String)
  | malformed (url : String) (reason : String)
  /-- A source of another kind words its own failure. -/
  | reported (text : String)
  deriving DecidableEq

namespace FetchProblem

def message : FetchProblem → String
  | .unreachable url => "Failed to get " ++ url ++ ": " ++ otherWording
  | .malformed url reason => "Malformed feed at " ++ url ++ ": " ++ reason
  | .reported text => text

end FetchProblem

/-- What a file operation runs into. -/
inductive FileProblem where
  | missing
  /-- A file stands where a directory is to be made. -/
  | occupied
  | isDirectory
  | notDirectory
  | nameTooLong
  /-- A number was given for a file, and no open file has it. -/
  | notOpen
  deriving DecidableEq

/-- A failure of the watcher or of one of its parts. -/
inductive Failure where
  | configuration (problem : ConfigurationProblem)
  | extraction (problem : ExtractionProblem)
  | fetch (problem : FetchProblem)
  | alreadyRunning (path : String)
  /-- There were no settings; a default document was written to the path. -/
  | settingsMissing (path : String)
  | file (problem : FileProblem)
  /-- A download was answered with an error or broke off. -/
  | download
  /-- A numeral has more digits than are read, or an integer more than are written. -/
  | numeralTooLong
  /-- A pattern asks for two alphabets at once. -/
  | conflictingAlphabets
  /-- A pattern asks for more repetitions than can be counted. -/
  | repetitionTooLarge
  /-- Infinity has no integer part. -/
  | infiniteInteger
  /--
  An undefined number has no integer part, a text is not a numeral, or a file number is negative.
  -/
  | notInteger
  /-- A value of this kind has no integer. -/
  | integerOfWrongKind
  /-- A ledger number does not fit 64 bits. -/
  | integerTooWide
  /-- A tie-break key names nothing of an entry's info. -/
  | unknownInfoKey (key : String)
  /-- A definition that is not named by a text stands in a cycle. -/
  | cycleOfUnnamed
  | mappingExpected
  | listExpected
  | pathExpected
  | nullInPath
  | textExpected
  /-- A log level is not one of the known ones. -/
  | unknownLevel
  /-- A log level is of a kind that no level is. -/
  | levelOfWrongKind
  /-- A saver gave up on an entry. -/
  | saverRefused
  deriving DecidableEq

namespace Failure

/--
The failure of a problem whose message shows a scalar. If that is an integer that is too long to
be written, there is no such message, and this is what fails.
-/
def showing (content : Scalar) (problem : ConfigurationProblem) : Failure :=
  if content.isLongInteger then .numeralTooLong else .configuration problem

def message? : Failure → Option String
  | .configuration problem => some problem.message
  | .extraction problem => some problem.message
  | .fetch problem => some problem.message
  | .alreadyRunning path => some ("Another instance holds " ++ path)
  | .settingsMissing path => some ("Wrote new config file to " ++ path)
  | _ => none

/-- The text that a log line shows for a failure. -/
def logText (failure : Failure) : String :=
  failure.message?.getD otherWording

/-- Whether a failure comes from the settings document or its rules. -/
def isConfiguration : Failure → Bool
  | .configuration _ => true
  | _ => false

/-- Whether a failure comes from files; missing settings count among these. -/
def isFile : Failure → Bool
  | .file _ => true
  | .settingsMissing _ => true
  | _ => false

end Failure

/-- The plain text of a value in which no integer is too long to be written. -/
def Value.toText (value : Value) : Except Failure String :=
  if value.hasLongInteger then .error .numeralTooLong else .ok value.display

end ReleaseWatch
