import ReleaseWatch.Entry.Basic
import ReleaseWatch.Host.Network
import ReleaseWatch.Log
import ReleaseWatch.Settings.LogSetup

/-!
# The host

Everything that the watcher does outside of itself goes through its host: files, the network, the
ledger, the lock, the feed, the log and the clock. The host's actions are those of a monad, so
one and the same watcher runs on a real host and on one that is kept in memory, of which
statements can be proved.
-/

namespace ReleaseWatch

/-- What a file is opened by. -/
inductive FileName where
  | path (path : String)
  /-- The number of a file that is open already. -/
  | number (number : Nat)
  deriving DecidableEq

/-- What the watcher needs of the system that it runs on. -/
structure Host (m : Type → Type) where
  log : LogLine → m Unit
  /-- Makes the files that the settings want the log in, and sends its lines there. -/
  arrangeLog : LogSetup → ExceptT Failure m Unit
  print : String → m Unit
  warn : String → m Unit
  /-- Whether there is a file or directory at a path. -/
  hasPath : String → m Bool
  readFile : String → ExceptT Failure m String
  /-- Writes a file anew, with a path and a text. -/
  writeFile : String → String → ExceptT Failure m Unit
  /-- Writes at the end of a file, with its name and a text; one that was open is closed then. -/
  appendFile : FileName → String → ExceptT Failure m Unit
  moveFile : String → String → ExceptT Failure m Unit
  makeDirectories : String → ExceptT Failure m Unit
  /-- Reads a settings document, if the text is one. -/
  document? : String → Option Value
  request : String → m Answer
  /-- Fetches the items of the feed at an address. -/
  fetchFeed : String → ExceptT Failure m (List Item)
  /-- Opens the ledger and gives the numbers in it. -/
  openLedger : ExceptT Failure m (List Int)
  /-- Whether the ledger holds a number. -/
  ledgerHolds : Int → ExceptT Failure m Bool
  enterLedger : Entry → ExceptT Failure m Unit
  /-- Takes the lock file at a path. -/
  acquireLock : String → ExceptT Failure m Unit
  /-- Gives the lock file at a path back. -/
  releaseLock : String → m Unit
  sleep : Int → ExceptT Failure m Unit

namespace Host

variable {m : Type → Type} [Monad m]

def note (host : Host m) (level : Level) (text : String) : m Unit :=
  host.log { level, text }

/-- Writes the lines of a computation, and goes on with what came of it. -/
def replay {α : Type} (host : Host m) (computation : Logged α) : ExceptT Failure m α := do
  computation.log.forM fun line => host.log line
  ExceptT.mk (pure computation.outcome)

end Host

end ReleaseWatch
