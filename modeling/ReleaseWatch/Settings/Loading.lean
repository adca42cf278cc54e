import ReleaseWatch.Files.Tree
import ReleaseWatch.Host.Basic
import ReleaseWatch.Settings.Basic
import ReleaseWatch.Settings.Default

/-!
# Loading settings

Settings are read from a file. If there is none, the default document is written in its place, and
the load fails nevertheless: the defaults are there to be edited first.
-/

namespace ReleaseWatch

namespace Settings

variable {m : Type → Type} [Monad m]

/-- Writes the default document, and makes the directory that it goes to. -/
def writeDefault (host : Host m) (path : String) : ExceptT Failure m Unit := do
  let directory := Path.directoryOf path
  if directory ≠ "" then host.makeDirectories directory
  host.writeFile path DefaultSettings.text

def readDocument (host : Host m) (path : String) : ExceptT Failure m Value := do
  if ← host.hasPath path then
    match host.document? (← host.readFile path) with
    | some document => return document
    | none => throw (.configuration (.unreadableDocument path))
  else
    writeDefault host path
    throw (.settingsMissing path)

/-- Loads the settings that the document at a path states. -/
def load (host : Host m) (path : String) : ExceptT Failure m Settings := do
  let document ← readDocument host path
  ExceptT.mk (pure (ofDocument document))

end Settings

end ReleaseWatch
