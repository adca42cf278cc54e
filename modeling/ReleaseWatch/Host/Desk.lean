import ReleaseWatch.Host.Basic
import ReleaseWatch.Host.Lock
import ReleaseWatch.Saving.Ledger

/-!
# A host in memory

A desk holds everything that a host has: files, a ledger, locks, and what the network and the feed
are going to answer. Whatever leaves the watcher is kept as an event, in order. Time passes only
when the watcher sleeps: then the next turn begins, with its own answer of the feed and perhaps
another settings file.
-/

namespace ReleaseWatch

/-- Something that the watcher did outside of its files and its ledger. -/
inductive Event where
  | logged (line : LogLine)
  | printed (text : String)
  | warned (text : String)
  | requested (url : String)
  | fetched (url : String)
  /-- Something was written to a file that was open under a number. -/
  | wrote (number : Nat) (text : String)
  | slept (seconds : Int)
  deriving DecidableEq

namespace Event

def line? : Event → Option LogLine
  | .logged line => some line
  | _ => none

def printed? : Event → Option String
  | .printed text => some text
  | _ => none

def warned? : Event → Option String
  | .warned text => some text
  | _ => none

def requested? : Event → Option String
  | .requested url => some url
  | _ => none

def fetched? : Event → Option String
  | .fetched url => some url
  | _ => none

def wrote? : Event → Option (Nat × String)
  | .wrote number text => some (number, text)
  | _ => none

def slept? : Event → Option Int
  | .slept seconds => some seconds
  | _ => none

end Event

/-- What becomes of the settings file when a turn begins. -/
inductive SettingsChange where
  | unchanged
  | removed
  | replaced (text : String)

/-- What the watcher finds between two sleeps. -/
structure Turn where
  change : SettingsChange := .unchanged
  feed : Except Failure (List Item) := .ok []

structure Desk where
  files : FileTree := {}
  ledger : Ledger := {}
  locks : Locks := {}
  network : Network := {}
  /-- The numbers of the files from outside of the desk that are open to be written to. -/
  opened : List Nat := []
  /-- What comes of making the files that the log goes to, which are outside of the desk. -/
  logReady : Except Failure Unit := .ok ()
  /-- The turn that is on. -/
  turn : Turn := {}
  /-- The turns to come. -/
  later : List Turn := []
  /-- What happened so far, the latest first. -/
  history : List Event := []

namespace Desk

def remember (event : Event) (desk : Desk) : Desk :=
  { desk with history := event :: desk.history }

def events (desk : Desk) : List Event :=
  desk.history.reverse

/-- Puts the settings file of a turn in place, in the working directory. -/
def applyChange (name : String) (desk : Desk) : SettingsChange → Desk
  | .unchanged => desk
  | .removed => { desk with files := desk.files.remove (desk.files.home ++ [name]) }
  | .replaced text => { desk with files := desk.files.put (desk.files.home ++ [name]) text }

def advance (path : String) (desk : Desk) : Desk :=
  match desk.later with
  | [] => desk
  | turn :: later => applyChange path { desk with turn, later } turn.change

/-- Opens a lock file; the file and the directory that it is in are made if missing. -/
def openLock (desk : Desk) (path : String) : Except Failure Path × Desk :=
  let made :=
    if Path.directoryOf path = "" then .ok desk.files
    else desk.files.makeDirectories (Path.directoryOf path)
  match made with
  | .error failure => (.error failure, desk)
  | .ok files =>
      match files.writable path with
      | .error failure => (.error failure, { desk with files })
      | .ok file => (.ok file, { desk with files := files.put file ((files.text? file).getD "") })

/-- Takes a lock file for a holder. -/
def acquireLock (desk : Desk) (holder path : String) : Except Failure Unit × Desk :=
  match desk.openLock path with
  | (.error failure, desk) => (.error failure, desk)
  | (.ok file, desk) =>
      match desk.locks.acquire holder file with
      | none => (.error (.alreadyRunning path), desk)
      | some locks => (.ok (), { desk with locks })

def releaseLock (desk : Desk) (holder : String) : Desk :=
  { desk with locks := desk.locks.release holder }

/-- An action that only changes the desk. -/
def change (step : Desk → Desk) : StateM Desk Unit :=
  modify step

/-- An action that changes the files, unless it fails. -/
def changeFiles (step : FileTree → Except Failure FileTree) :
    ExceptT Failure (StateM Desk) Unit := do
  let desk ← get
  let files ← ExceptT.mk (pure (step desk.files))
  set { desk with files }

/-- An action that reads the desk. -/
def look {α : Type} (reading : Desk → Except Failure α) : ExceptT Failure (StateM Desk) α := do
  let desk ← get
  ExceptT.mk (pure (reading desk))

def request (url : String) : StateM Desk Answer := do
  let desk ← get
  let (answer, network) := desk.network.request url
  set (remember (.requested url) { desk with network })
  return answer

def enterLedger (entry : Entry) : ExceptT Failure (StateM Desk) Unit := do
  let desk ← get
  let ledger ← ExceptT.mk (pure (desk.ledger.enter entry))
  set { desk with ledger }

/-- Writes to a file that is open under a number, and closes it. -/
def writeOpened (number : Nat) (text : String) : ExceptT Failure (StateM Desk) Unit := do
  let desk ← get
  if desk.opened.contains number then
    set (remember (.wrote number text) { desk with opened := desk.opened.erase number })
  else throw (.file .notOpen)

/-- Writes at the end of a file. -/
def appendFile : FileName → String → ExceptT Failure (StateM Desk) Unit
  | .path path, text => changeFiles fun files => files.append path text
  | .number number, text => writeOpened number text

/-- The desk as a host, for a holder of locks and with the path of the settings file. -/
def host (holder settingsPath : String) (document? : String → Option Value) :
    Host (StateM Desk) where
  log line := change (remember (.logged line))
  arrangeLog setup := look fun desk =>
    if setup.targets.any LogTarget.isFile then desk.logReady else .ok ()
  print text := change (remember (.printed text))
  warn text := change (remember (.warned text))
  hasPath path := return (← get).files.hasPath path
  readFile path := look fun desk => desk.files.read path
  writeFile path text := changeFiles fun files => files.write path text
  appendFile := appendFile
  moveFile source target := changeFiles fun files => files.move source target
  makeDirectories path := changeFiles fun files => files.makeDirectories path
  document? := document?
  request := request
  fetchFeed url := do
    change (remember (.fetched url))
    look fun desk => desk.turn.feed
  openLedger := look fun desk => .ok desk.ledger.ids
  ledgerHolds id := look fun desk => desk.ledger.holds id
  enterLedger := enterLedger
  acquireLock path := fun desk => desk.acquireLock holder path
  releaseLock _ := change fun desk => desk.releaseLock holder
  sleep seconds :=
    ExceptT.lift (change fun desk => advance settingsPath (remember (.slept seconds) desk))

end Desk

end ReleaseWatch
