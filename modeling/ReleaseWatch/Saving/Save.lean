import ReleaseWatch.Files.Tree
import ReleaseWatch.Host.Basic
import ReleaseWatch.Saving.Report
import ReleaseWatch.Settings.Basic

/-!
# Saving accepted entries

An accepted entry is listed in files, downloaded into a directory, entered in the ledger and
reported, in this order and as far as the settings ask for it. An entry that the ledger holds is
skipped. A download that fails is written to the log and leaves the entry out of the ledger, so
that it will be tried again.
-/

namespace ReleaseWatch

namespace FileName

/-- The greatest number that a file can have. -/
def greatestNumber : Int := 0x7FFFFFFF

/-- The file of a number of 32 bits. -/
def ofNumber (number : Int) : Except Failure FileName :=
  if number < -greatestNumber - 1 || greatestNumber < number then .error .pathExpected
  else if number < 0 then .error .notInteger
  else .ok (.number number.toNat)

end FileName

/-- What a value names a file by; a truth value counts as 0 or 1. -/
def Value.fileName : Value → Except Failure FileName
  | .text path => .ok (.path path)
  | .bool value => .ok (.number (if value then 1 else 0))
  | .int number => FileName.ofNumber number
  | _ => .error .pathExpected

/-- The path of a directory that a value names. -/
def Value.directoryPath : Value → Except Failure String
  | .text path => .ok path
  | _ => .error .pathExpected

/-- Whether a failure is one of a download or of a file, after which a save is tried again. -/
def Failure.isRetried : Failure → Bool
  | .download => true
  | failure => failure.isFile

namespace SaveSettings

variable {m : Type → Type} [Monad m]

/-- Adds a line to the file that a value names, or to the standard output if that is a dash. -/
def addLine (host : Host m) (target : Value) (line : String) : ExceptT Failure m Unit :=
  match target with
  | .text "-" => host.print (line ++ "\n")
  | target => do
      let file ← ExceptT.mk (pure target.fileName)
      host.appendFile file (line ++ "\n")

/-- Lists the addresses of an entry in the files that are set. -/
def addLines (host : Host m) (settings : SaveSettings) (entry : Entry) :
    ExceptT Failure m Unit := do
  if settings.urlFile.isTruthy then
    addLine host settings.urlFile entry.torrentUrl
  if settings.magnetFile.isTruthy then
    match entry.magnetUri with
    | none | some "" => pure ()
    | some uri => addLine host settings.magnetFile uri

/-- Keeps an answer as a file, which gets its name only when it is complete. -/
def keepAnswer (host : Host m) (path : String) : Answer → ExceptT Failure m Unit
  | .unreachable => throw .download
  | .reply code body isWhole =>
      if Answer.isSuccess code then do
        host.writeFile (path ++ ".part") body
        if isWhole then host.moveFile (path ++ ".part") path else throw .download
      else throw .download

/-- Downloads an entry into a directory. -/
def download (host : Host m) (directory : Value) (entry : Entry) : ExceptT Failure m Unit := do
  let name ← ExceptT.mk (pure entry.downloadName)
  let place ← ExceptT.mk (pure directory.directoryPath)
  host.note .info ("Fetching \"" ++ name ++ "\"")
  let answer ← host.request entry.torrentUrl
  keepAnswer host (Path.join place name) answer

/-- Downloads an entry if a directory is set, and tells how that went. -/
def downloadIfSet (host : Host m) (settings : SaveSettings) (entry : Entry) :
    m (Except Failure Unit) :=
  if settings.directory.isTruthy then (download host settings.directory entry).run
  else pure (.ok ())

/-- Whether the ledger holds an entry; it never holds one without a number. -/
def isSaved (host : Host m) (entry : Entry) : ExceptT Failure m Bool :=
  match entry.id with
  | none => pure false
  | some id => host.ledgerHolds id

/-- Lists, downloads and enters an entry. -/
def saveNew (host : Host m) (settings : SaveSettings) (entry : Entry) :
    ExceptT Failure m Unit := do
  settings.addLines host entry
  match ← ExceptT.lift (settings.downloadIfSet host entry) with
  | .ok () =>
      host.enterLedger entry
      host.note .info entry.report
  | .error failure =>
      if failure.isRetried then
        host.note .error ("Failed to fetch " ++ entry.titleText ++ " (" ++ entry.torrentUrl ++
          "): " ++ failure.logText)
      else throw failure

/-- Saves an accepted entry, or only reports it if it goes nowhere. -/
def save (host : Host m) (settings : SaveSettings) (entry : Entry) : ExceptT Failure m Unit := do
  if settings.isEnabled then
    if ← isSaved host entry then
      host.note .debug ("Skipping already saved entry " ++ Entry.idText entry.id)
    else settings.saveNew host entry
  else host.note .info entry.report

end SaveSettings

end ReleaseWatch
