import ReleaseWatch.Feed.Posting
import ReleaseWatch.Saving.Ledger
import ReleaseWatch.Value.Notation
import ReleaseWatch.Watch.Run

/-!
# The command line program

The watcher on the system that it is started on. Settings and feeds are read in plain notation,
and the only addresses within reach are those of files, written behind `file:`. The ledger is a
file with one row a line, its fields between tabs.
-/

namespace ReleaseWatch

namespace Program

/-- What the program keeps between two actions. -/
structure Keep where
  /-- Where the log goes. -/
  log : LogSetup := {}
  lock : Option IO.FS.Handle := none
  /-- The numbers of the files that were open when the program began, and are no more. -/
  closed : List Nat := []

/-- The problem with a file that an error of the system tells of. -/
def problemOf : IO.Error → FileProblem
  | .noFileOrDirectory .. => .missing
  | .alreadyExists .. => .occupied
  | .inappropriateType .. => .isDirectory
  | _ => .notOpen

/-- An action of the system, whose errors are failures with files. -/
def attempt {α : Type} (action : IO α) : ExceptT Failure IO α := do
  match ← ExceptT.lift action.toBaseIO with
  | .ok value => return value
  | .error problem => throw (.file (problemOf problem))

/-- Writes a line of the log to each target that it matters enough for. -/
def writeLog (setup : LogSetup) (line : LogLine) : IO Unit := do
  let text := line.level.name ++ " " ++ line.text
  for target in setup.targets do
    match target with
    | .console threshold => if threshold ≤ line.level.weight then IO.eprintln text
    | .file threshold path _ _ =>
        if threshold ≤ line.level.weight then
          let handle ← IO.FS.Handle.mk path .append
          handle.putStrLn text

/-- What a request to an address is answered; only files are within reach. -/
def request (url : String) : IO Answer := do
  if url.startsWith "file:" then
    match ← (IO.FS.readFile (url.drop 5).toString).toBaseIO with
    | .ok body => return .reply 200 body true
    | .error _ => return .notFound
  else return .unreachable

/-- A feed in plain notation: the list of its postings. -/
def decodeFeed (body : String) : DecodedFeed :=
  match Notation.value? body with
  | some (.list entries) => { entries }
  | _ => { isMalformed := true }

/-- A row of the ledger as a line; what would break the line is left out of the texts. -/
def rowLine (row : LedgerRow) : String :=
  let field (text : String) :=
    String.ofList (text.toList.map fun char => if char = '\t' || char = '\n' then ' ' else char)
  "\t".intercalate
    [toString row.id, field row.title, field row.link, field (row.name.getD ""),
     (row.episode.map toString).getD ""]

def row? (line : String) : Option LedgerRow :=
  match line.splitOn "\t" with
  | [id, title, link, name, episode] =>
      id.toInt?.map fun id =>
        { id, title, link, name := if name = "" then none else some name,
          episode := episode.toInt? }
  | _ => none

def readLedger (path : String) : IO Ledger := do
  match ← (IO.FS.readFile path).toBaseIO with
  | .ok text => return { rows := (text.splitOn "\n").filterMap row? }
  | .error _ => return {}

def enterLedger (path : String) (entry : Entry) : ExceptT Failure IO Unit := do
  let ledger ← ExceptT.lift (readLedger path)
  let ledger ← ExceptT.mk (pure (ledger.enter entry))
  attempt (IO.FS.writeFile path (String.join (ledger.rows.map fun row => rowLine row ++ "\n")))

/--
Opens a file to be written to at its end; it and the directory that it is in are made if missing.
-/
def openAtEnd (path : String) : ExceptT Failure IO IO.FS.Handle := do
  if Path.directoryOf path ≠ "" then attempt (IO.FS.createDirAll (Path.directoryOf path))
  attempt (IO.FS.Handle.mk path .append)

/-- Makes the files that the log goes to, and sends it there. -/
def arrangeLog (keep : IO.Ref Keep) (setup : LogSetup) : ExceptT Failure IO Unit := do
  for target in setup.targets do
    match target with
    | .console _ => pure ()
    | .file _ path _ _ => let _ ← openAtEnd path
  ExceptT.lift (keep.modify fun kept => { kept with log := setup })

def acquireLock (keep : IO.Ref Keep) (path : String) : ExceptT Failure IO Unit := do
  let handle ← openAtEnd path
  if ← attempt handle.tryLock then
    ExceptT.lift (keep.modify fun kept => { kept with lock := some handle })
  else throw (.alreadyRunning path)

def releaseLock (keep : IO.Ref Keep) : IO Unit := do
  match (← keep.get).lock with
  | some handle => handle.unlock
  | none => pure ()
  keep.modify fun kept => { kept with lock := none }

def appendTo (path text : String) : IO Unit := do
  let handle ← IO.FS.Handle.mk path .append
  handle.putStr text

/-- Writes at the end of a file; one that was open when the program began counts as closed then. -/
def appendFile (keep : IO.Ref Keep) (text : String) : FileName → ExceptT Failure IO Unit
  | .path path => attempt (appendTo path text)
  | .number number => do
      let kept ← ExceptT.lift keep.get
      if kept.closed.contains number then throw (.file .notOpen)
      match ← ExceptT.lift (appendTo ("/dev/fd/" ++ toString number) text).toBaseIO with
      | .ok () => ExceptT.lift (keep.set { kept with closed := number :: kept.closed })
      | .error _ => throw (.file .notOpen)

def fetchFeed (keep : IO.Ref Keep) (url : String) : ExceptT Failure IO (List Item) := do
  let answer ← ExceptT.lift (request url)
  let fetched := fetchPostings url answer decodeFeed
  ExceptT.lift (fetched.log.forM fun line => do writeLog (← keep.get).log line)
  let postings ← ExceptT.mk (pure fetched.outcome)
  ExceptT.mk (pure (postings.mapM Posting.toItem))

/-- The most seconds that a clock of 64 bits can count in parts of 10⁻⁹. -/
def longestSleep : Int := 9223372036

/-- The system that the program runs on. -/
def host (keep : IO.Ref Keep) (watcher : Watcher) : Host IO where
  log line := do writeLog (← keep.get).log line
  arrangeLog := arrangeLog keep
  print text := IO.print text
  warn text := IO.eprint text
  hasPath path := return (← (IO.FS.realPath path).toBaseIO).toOption.isSome
  readFile path := attempt (IO.FS.readFile path)
  writeFile path text := attempt (IO.FS.writeFile path text)
  appendFile file text := appendFile keep text file
  moveFile source target := attempt (IO.FS.rename source target)
  makeDirectories path := attempt (IO.FS.createDirAll path)
  document? text :=
    if text = DefaultSettings.text then some DefaultSettings.document else Notation.value? text
  request := request
  fetchFeed := fetchFeed keep
  openLedger := return (← ExceptT.lift (readLedger watcher.ledger)).ids
  ledgerHolds id := do
    let ledger ← ExceptT.lift (readLedger watcher.ledger)
    ExceptT.mk (pure (ledger.holds id))
  enterLedger entry := enterLedger watcher.ledger entry
  acquireLock path := acquireLock keep path
  releaseLock _ := releaseLock keep
  sleep seconds :=
    if longestSleep < seconds then throw .integerTooWide
    else ExceptT.lift (IO.sleep (seconds.toNat * 1000).toUInt32)

/-- The files that the program works with. -/
def watcher : Watcher :=
  { settings := "torrentsieve.yaml", ledger := "torrentsieve.db", lock := "torrentsieve.lock" }

/-- More sleeps than any run lives to see. -/
def sleepLimit : Nat := 0x4000000000000000

/-- Runs the watcher, and gives its exit code. -/
def run (words : List String) : IO UInt32 := do
  let keep ← IO.mkRef {}
  match ← watcher.run (host keep watcher) words sleepLimit with
  | .finished code => return code.toUInt32
  | .returned | .stopped => return 0
  | .failed failure =>
      IO.eprintln failure.logText
      return 1

end Program

end ReleaseWatch

/-- Runs the watcher by the words of the command line. -/
def main (words : List String) : IO UInt32 :=
  ReleaseWatch.Program.run words
