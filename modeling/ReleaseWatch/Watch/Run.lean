import ReleaseWatch.Watch.CommandLine
import ReleaseWatch.Watch.Session

/-!
# Running the watcher

A run loads the settings, takes the lock, opens the ledger, and watches the feed. The ledger, the
feed and the downloads are used only under the lock, which is given back however the run ends.
-/

namespace ReleaseWatch

/-- A watcher, by the files that it works with. -/
structure Watcher where
  settings : String
  ledger : String
  lock : String

namespace Watcher

variable {m : Type → Type} [Monad m]

/-- Opens the ledger and puts the first rules in force; unusable ones end the run. -/
def watchFeed (host : Host m) (watcher : Watcher) (settings : Settings) (once : Bool)
    (sleeps : Nat) : ExceptT Failure m Ending := do
  let ids ← host.openLedger
  host.note .info
    ("Ledger " ++ watcher.ledger ++ " holds " ++ toString ids.length ++ " accepted ids")
  let (processor, rules) := Processor.reload {} settings.filters
  match ← ExceptT.lift (host.replay rules).run with
  | .ok _ =>
      Session.watch host watcher.settings once sleeps
        { settings, processor, saving := settings.save }
  | .error (.configuration problem) =>
      host.note .error ("Invalid rules in " ++ watcher.settings ++ ": " ++ problem.message)
      return .finished 2
  | .error failure => throw failure

def endingOf : Except Failure Ending → Ending
  | .ok ending => ending
  | .error failure => .failed failure

def watchLocked (host : Host m) (watcher : Watcher) (settings : Settings) (once : Bool)
    (sleeps : Nat) : m Ending := do
  match ← (host.acquireLock watcher.lock).run with
  | .error (.alreadyRunning path) =>
      host.note .error (Failure.alreadyRunning path).logText
      return .finished 3
  | .error failure => return .failed failure
  | .ok () =>
      host.note .debug ("Acquired instance lock " ++ watcher.lock)
      let outcome ← (watcher.watchFeed host settings once sleeps).run
      host.releaseLock watcher.lock
      return endingOf outcome

/-- Says why there are no settings to start with. -/
def refuseStart (host : Host m) (watcher : Watcher) : Failure → m Ending
  | .settingsMissing path => do
      host.print ((Failure.settingsMissing path).logText ++ "\nCustomize " ++ path ++
        " before rerunning torrentsieve\n")
      return .finished 1
  | .configuration problem => do
      host.warn ("Invalid config " ++ watcher.settings ++ ": " ++ problem.message ++ "\n")
      return .finished 2
  | failure => return .failed failure

/-- Loads the settings and watches the feed by them. -/
def watch (host : Host m) (watcher : Watcher) (verbose once : Bool) (sleeps : Nat) : m Ending := do
  match ← (Settings.load host watcher.settings).run with
  | .error failure => watcher.refuseStart host failure
  | .ok settings =>
      match LogSetup.ofSettings settings.logging verbose with
      | .error failure => return .failed failure
      | .ok setup =>
          match ← (host.arrangeLog setup).run with
          | .error failure => return .failed failure
          | .ok () =>
              host.note .info "Starting torrentsieve"
              watcher.watchLocked host settings once sleeps

/-- Writes the default settings, unless there is something at their path. -/
def writeDefault (host : Host m) (path : String) : ExceptT Failure m Ending := do
  if ← host.hasPath path then
    host.print (path ++ " already exists\n")
  else
    Settings.writeDefault host path
    host.print ("Wrote new config file to " ++ path ++ "\n")
  return .returned

/--
Does what a command line asks for, and is stopped in the sleep behind the given number of others.
-/
def run (host : Host m) (watcher : Watcher) (words : List String) (sleeps : Nat) : m Ending := do
  match CommandLine.read watcher.settings words with
  | .error (.help text) =>
      host.print text
      return .finished 0
  | .error .misuse =>
      host.warn CommandLine.generalUsage
      return .finished 2
  | .ok invocation =>
      let watcher := { watcher with settings := invocation.settingsPath }
      match invocation.command with
      | .writeDefault => return endingOf (← (writeDefault host watcher.settings).run)
      | .watch once => watcher.watch host invocation.verbose once sleeps

end Watcher

end ReleaseWatch
