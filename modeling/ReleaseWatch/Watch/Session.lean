import ReleaseWatch.Feed.Processor
import ReleaseWatch.Saving.Save
import ReleaseWatch.Settings.Loading

/-!
# A watching session

A session holds the settings in force, the processor that works by their rules, and what its saver
was made with. Each cycle refreshes the feed, sleeps, loads the settings anew, and makes the saver
anew; settings that cannot be loaded, or whose rules are unusable, leave the session as it is. A
feed that cannot be had and a rule that fails are written to the log and tried again in the next
cycle; any other failure ends the session.
-/

namespace ReleaseWatch

/-- How a run of the watcher ends. -/
inductive Ending where
  | finished (code : Nat)
  /-- Without one, after a command that only writes a file. -/
  | returned
  /-- From outside, during a sleep. -/
  | stopped
  | failed (failure : Failure)

/-- The settings in force, the processor that has their rules, and where its saver puts entries. -/
structure Session where
  settings : Settings
  processor : Processor
  saving : SaveSettings

namespace Session

variable {m : Type → Type} [Monad m]

/-- What a refresh of the session has for surroundings. -/
def surroundings (host : Host m) (session : Session) : Surroundings m where
  fetch url := (host.fetchFeed url).run
  log := host.log
  save entry := (session.saving.save host entry).run

/-- Writes what a failed refresh comes to, unless the failure ends the session. -/
def reportFailure (host : Host m) : Failure → ExceptT Failure m Unit
  | .fetch problem => host.note .error ("Feed refresh failed: " ++ problem.message)
  | .configuration _ =>
      host.note .error "Rule evaluation failed; fix the config before the next poll"
  | failure => throw failure

def refresh (host : Host m) (session : Session) : ExceptT Failure m Session := do
  let refreshed ← ExceptT.lift
    (session.processor.refresh (session.surroundings host) session.settings.url)
  match refreshed.outcome with
  | .ok _ => pure ()
  | .error failure => reportFailure host failure
  return { session with processor := refreshed.processor }

/-- Puts the rules of the settings file in force, and gives its settings if they are usable. -/
def loadRules (host : Host m) (path : String) (session : Session) :
    m (Session × Except Failure Settings) := do
  match ← (Settings.load host path).run with
  | .error failure => return (session, .error failure)
  | .ok settings =>
      let (processor, rules) := session.processor.reload settings.filters
      let outcome ← (host.replay rules).run
      return ({ session with processor }, outcome.map fun _ => settings)

/-- Whether a failure to load settings leaves the session as it is. -/
def isSurvivable (failure : Failure) : Bool :=
  failure.isConfiguration || failure.isFile

def reload (host : Host m) (path : String) (session : Session) : ExceptT Failure m Session := do
  host.note .info "Reloading settings..."
  let (session, outcome) ← ExceptT.lift (session.loadRules host path)
  match outcome with
  | .ok settings => return { session with settings }
  | .error failure =>
      if isSurvivable failure then
        host.note .error ("Reload failed, keeping previous settings: " ++ failure.logText)
        return session
      else throw failure

/-- Makes the saver anew by the settings in force. -/
def renewSaver (session : Session) : Session :=
  { session with saving := session.settings.save }

def isLast (once : Bool) (session : Session) : Bool :=
  once || session.settings.poll ≤ 0

/--
Watches the feed from cycle to cycle, and is stopped
in the sleep behind the given number of others.
-/
def watch (host : Host m) (path : String) (once : Bool) :
    Nat → Session → ExceptT Failure m Ending
  | sleeps, session => do
      let session ← session.refresh host
      if session.isLast once then return .finished 0
      else
        host.note .info ("Sleeping for " ++ toString session.settings.poll ++ " seconds.")
        host.sleep session.settings.poll
        match sleeps with
        | 0 => return .stopped
        | sleeps + 1 =>
            let session ← session.reload host path
            session.renewSaver.watch host path once sleeps

end Session

end ReleaseWatch
