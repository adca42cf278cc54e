import ReleaseWatch.Files.Tree
import ReleaseWatch.Settings.Basic
import ReleaseWatch.Text.LetterCase

/-!
# Where log lines go

The settings say how much a log line has to matter and whether it goes to the console, to a file
that is rotated, or to both. With neither of them the log is left as it was.
-/

namespace ReleaseWatch

/-- Something that log lines go to, if they matter enough. -/
inductive LogTarget where
  | console (threshold : Nat)
  /--
  A file, given from the project's directory, that is rotated at a size, with some old files kept.
  -/
  | file (threshold : Nat) (path : String) (maxBytes backups : Int)
  deriving DecidableEq

def LogTarget.isFile : LogTarget → Bool
  | .console _ => false
  | .file .. => true

/-- How much a log line has to matter, and what it goes to. -/
structure LogSetup where
  threshold : Nat := 30
  targets : List LogTarget := []
  deriving DecidableEq

namespace LogSetup

def usualThreshold : Nat := 20

/--
The threshold that a name in capital letters stands for; two names are taken for other things.
-/
def thresholdNamed : String → Except Failure Nat
  | "CRITICAL" | "FATAL" => .ok 50
  | "ERROR" => .ok 40
  | "WARNING" | "WARN" => .ok 30
  | "INFO" => .ok usualThreshold
  | "DEBUG" => .ok 10
  | "NOTSET" => .ok 0
  | "BASIC_FORMAT" => .error .unknownLevel
  | "_STYLES" => .error .levelOfWrongKind
  | _ => .ok usualThreshold

/-- The value under a key, or another one if the key is absent. -/
def getOr (fields : Mapping) (key : String) (fallback : Value) : Value :=
  (fields.find? (.text key)).getD fallback

/-- The name of the level in the settings, in capital letters; being verbose overrides it. -/
def levelName (fields : Mapping) (verbose : Bool) : Except Failure String :=
  if verbose then .ok "DEBUG"
  else
    (getOr fields "level" (.text "INFO")).toText.map fun level =>
      String.ofList (level.toList.flatMap basicCapitals)

/-- One name of a path, followed without looking at files. -/
def follow (names : List String) (name : String) : List String :=
  if name = "" || name = "." then names
  else if name = ".." && !names.isEmpty && names.getLast? != some ".." then names.dropLast
  else names ++ [name]

def pathText : Value → Except Failure String
  | .text path => .ok path
  | _ => .error .pathExpected

/-- The path of a log file, from the project's directory. -/
def filePath (path : String) : Except Failure String :=
  let names := path.splitOn "/"
  if path.toList.contains '\x00' then .error .nullInPath
  else if (names.getLast?.map Path.isRelative).getD true then .error (.file .isDirectory)
  else if names.any Path.isTooLong then .error (.file .nameTooLong)
  else if path.startsWith "/" then .ok path
  else .ok (Path.text (names.foldl follow []))

/-- The size at which a log file is rotated unless the settings say otherwise. -/
def usualMaxBytes : Int := 5 * 1024 * 1024

/-- The number of old log files that are kept unless the settings say otherwise. -/
def usualBackups : Int := 5

/-- The console, unless the settings turn it off. -/
def consoleTargets (fields : Mapping) (threshold : Except Failure Nat) :
    Except Failure (List LogTarget) :=
  if (getOr fields "console" (.bool true)).isTruthy then
    threshold.map fun threshold => [.console threshold]
  else .ok []

/-- The log file that a section describes, if it is enabled. -/
def fileTarget (section_ : Mapping) (threshold : Except Failure Nat) :
    Except Failure (List LogTarget) :=
  if (section_.get "enabled").isTruthy then do
    let named ← pathText (getOr section_ "path" (.text "logs/torrentsieve.log"))
    let maxBytes ← (getOr section_ "max_bytes" (.int usualMaxBytes)).toInteger
    let backups ← (getOr section_ "backup_count" (.int usualBackups)).toInteger
    let path ← filePath named
    let threshold ← threshold
    return [.file threshold path maxBytes backups]
  else .ok []

/-- The log file, if the settings have a section for one. -/
def fileTargets (fields : Mapping) (threshold : Except Failure Nat) :
    Except Failure (List LogTarget) :=
  if (fields.get "file").isTruthy then
    match fields.get "file" with
    | .mapping section_ => fileTarget section_ threshold
    | _ => .error .mappingExpected
  else .ok []

/--
What the settings make of the log. A level is looked at only where something is set up with it.
-/
def ofSettings (fields : Mapping) (verbose : Bool) : Except Failure LogSetup := do
  let name ← levelName fields verbose
  let level := thresholdNamed name
  let console ← consoleTargets fields level
  let files ← fileTargets fields level
  if (console ++ files).isEmpty then return {}
  let threshold ← level
  return { threshold, targets := console ++ files }

end LogSetup

end ReleaseWatch
