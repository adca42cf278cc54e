import ReleaseWatch.Host.Basic
import ReleaseWatch.Proofs.Action

/-!
# A record of calls

Any host can be made to keep a record of what it is asked for, in order. An action that works
through such a host does what it does without the record. `Mirrors` says so of an action, together
with the kind of calls that it adds, and it holds of actions after each other if it holds of each,
so that it follows the watcher part by part.
-/

namespace ReleaseWatch

/-- Something that a host is asked for. -/
inductive Call where
  | log (line : LogLine)
  | arrangeLog (setup : LogSetup)
  | print (text : String)
  | warn (text : String)
  | hasPath (path : String)
  | readFile (path : String)
  | writeFile (path text : String)
  | appendFile (file : FileName) (text : String)
  | moveFile (source target : String)
  | makeDirectories (path : String)
  | request (url : String)
  | fetchFeed (url : String)
  | openLedger
  | ledgerHolds (id : Int)
  | enterLedger (entry : Entry)
  /-- A lock file was asked for, and whether it was given. -/
  | acquireLock (path : String) (isGiven : Bool)
  | releaseLock (path : String)
  | sleep (seconds : Int)
  deriving DecidableEq

/-- A world, and what its host was asked for so far. -/
structure Recording (World : Type) where
  world : World
  calls : List Call := []

variable {World α β : Type}

/-- Records a call, which may tell what came of the action. -/
def recordCall (call : α → Call) (action : StateM World α) :
    StateM (Recording World) α := fun recording =>
  let (value, reached) := action.run recording.world
  (value, { world := reached, calls := recording.calls ++ [call value] })

/-- Records a call of an action that may fail. -/
def recordTry (call : Except Failure α → Call) (action : ExceptT Failure (StateM World) α) :
    ExceptT Failure (StateM (Recording World)) α :=
  ExceptT.mk (recordCall call action.run)

/-- The host that does what another one does, and keeps a record of its calls. -/
def Host.recorded (host : Host (StateM World)) : Host (StateM (Recording World)) where
  log line := recordCall (fun _ => .log line) (host.log line)
  arrangeLog setup := recordTry (fun _ => .arrangeLog setup) (host.arrangeLog setup)
  print text := recordCall (fun _ => .print text) (host.print text)
  warn text := recordCall (fun _ => .warn text) (host.warn text)
  hasPath path := recordCall (fun _ => .hasPath path) (host.hasPath path)
  readFile path := recordTry (fun _ => .readFile path) (host.readFile path)
  writeFile path text := recordTry (fun _ => .writeFile path text) (host.writeFile path text)
  appendFile file text := recordTry (fun _ => .appendFile file text) (host.appendFile file text)
  moveFile source target :=
    recordTry (fun _ => .moveFile source target) (host.moveFile source target)
  makeDirectories path := recordTry (fun _ => .makeDirectories path) (host.makeDirectories path)
  document? := host.document?
  request url := recordCall (fun _ => .request url) (host.request url)
  fetchFeed url := recordTry (fun _ => .fetchFeed url) (host.fetchFeed url)
  openLedger := recordTry (fun _ => .openLedger) host.openLedger
  ledgerHolds id := recordTry (fun _ => .ledgerHolds id) (host.ledgerHolds id)
  enterLedger entry := recordTry (fun _ => .enterLedger entry) (host.enterLedger entry)
  acquireLock path :=
    recordTry (fun outcome => .acquireLock path outcome.isOk) (host.acquireLock path)
  releaseLock path := recordCall (fun _ => .releaseLock path) (host.releaseLock path)
  sleep seconds := recordTry (fun _ => .sleep seconds) (host.sleep seconds)

/-- A recording action does what a plain one does, and every call that it adds is of a kind. -/
def Mirrors (kind : Call → Prop) (action : StateM World α)
    (recording : StateM (Recording World) α) : Prop :=
  ∀ world calls, ∃ made, (∀ call ∈ made, kind call) ∧
    recording.run { world, calls } = ((action.run world).1,
      { world := (action.run world).2, calls := calls ++ made })

/-- The same of actions that may fail. -/
def TryMirrors (kind : Call → Prop) (action : ExceptT Failure (StateM World) α)
    (recording : ExceptT Failure (StateM (Recording World)) α) : Prop :=
  Mirrors kind action.run recording.run

variable {kind : Call → Prop}

namespace Mirrors

variable {action : StateM World α} {recording : StateM (Recording World) α}
    {next : α → StateM World β} {nextRecording : α → StateM (Recording World) β}

theorem pure (value : α) : Mirrors kind (Pure.pure value : StateM World α) (Pure.pure value) := by
  intro world calls
  refine ⟨[], List.forall_mem_nil _, ?_⟩
  rw [List.append_nil]
  rfl

theorem bind (first : Mirrors kind action recording)
    (second : ∀ value, Mirrors kind (next value) (nextRecording value)) :
    Mirrors kind (action >>= next) (recording >>= nextRecording) := by
  intro world calls
  rcases first world calls with ⟨made, allFirst, ran⟩
  rcases second (action.run world).1 (action.run world).2 (calls ++ made) with
    ⟨later, allSecond, ranLater⟩
  refine ⟨made ++ later, List.forall_mem_append.mpr ⟨allFirst, allSecond⟩, ?_⟩
  rw [run_bind_eq, run_bind_eq, ran, ranLater, List.append_assoc]

theorem recordCall (call : α → Call) (isKind : ∀ value, kind (call value))
    (action : StateM World α) :
    Mirrors kind action (recordCall call action) := by
  intro world calls
  refine ⟨[call (action.run world).1], ?_, rfl⟩
  rintro _ (_ | ⟨_, ⟨⟩⟩)
  exact isKind _

theorem forM {Item : Type} {step : Item → StateM World Unit}
    {recordingStep : Item → StateM (Recording World) Unit}
    (each : ∀ item, Mirrors kind (step item) (recordingStep item)) (items : List Item) :
    Mirrors kind (items.forM step) (items.forM recordingStep) := by
  induction items with
  | nil => exact pure ()
  | cons item rest ih => exact bind (each item) fun _ => ih

end Mirrors

namespace TryMirrors

variable {action : ExceptT Failure (StateM World) α}
    {recording : ExceptT Failure (StateM (Recording World)) α}
    {next : α → ExceptT Failure (StateM World) β}
    {nextRecording : α → ExceptT Failure (StateM (Recording World)) β}

theorem ofOutcome (outcome : Except Failure α) :
    TryMirrors kind (ExceptT.mk (pure outcome) : ExceptT Failure (StateM World) α)
      (ExceptT.mk (pure outcome)) :=
  Mirrors.pure outcome

theorem bind (first : TryMirrors kind action recording)
    (second : ∀ value, TryMirrors kind (next value) (nextRecording value)) :
    TryMirrors kind (action >>= next) (recording >>= nextRecording) := by
  change Mirrors kind (action.run >>= ExceptT.bindCont next)
    (recording.run >>= ExceptT.bindCont nextRecording)
  refine Mirrors.bind first ?_
  rintro (failure | value)
  · exact Mirrors.pure (Except.error failure)
  · exact second value

theorem liftM {action : StateM World α} {recording : StateM (Recording World) α}
    (mirrors : Mirrors kind action recording) :
    TryMirrors kind (MonadLiftT.monadLift action : ExceptT Failure (StateM World) α)
      (MonadLiftT.monadLift recording) :=
  Mirrors.bind mirrors fun value => Mirrors.pure (Except.ok value)

theorem recordTry (call : Except Failure α → Call) (isKind : ∀ outcome, kind (call outcome))
    (action : ExceptT Failure (StateM World) α) : TryMirrors kind action (recordTry call action) :=
  Mirrors.recordCall call isKind action.run

theorem forM {Item : Type} {step : Item → ExceptT Failure (StateM World) Unit}
    {recordingStep : Item → ExceptT Failure (StateM (Recording World)) Unit}
    (each : ∀ item, TryMirrors kind (step item) (recordingStep item)) (items : List Item) :
    TryMirrors kind (items.forM step) (items.forM recordingStep) := by
  induction items with
  | nil => exact ofOutcome (.ok ())
  | cons item rest ih => exact bind (each item) fun _ => ih

end TryMirrors

/-- A call that neither takes a lock nor gives one back. -/
def Call.KeepsLock : Call → Prop
  | .acquireLock _ _ | .releaseLock _ => False
  | _ => True

namespace Host

/-- All actions of a host but those on locks are mirrored by another one that keeps a record. -/
structure Mirrored (kind : Call → Prop) (host : Host (StateM World))
    (recording : Host (StateM (Recording World))) : Prop where
  log : ∀ line, Mirrors kind (host.log line) (recording.log line)
  print : ∀ text, Mirrors kind (host.print text) (recording.print text)
  hasPath : ∀ path, Mirrors kind (host.hasPath path) (recording.hasPath path)
  readFile : ∀ path, TryMirrors kind (host.readFile path) (recording.readFile path)
  writeFile : ∀ path text,
    TryMirrors kind (host.writeFile path text) (recording.writeFile path text)
  appendFile : ∀ file text,
    TryMirrors kind (host.appendFile file text) (recording.appendFile file text)
  moveFile : ∀ source target, TryMirrors kind (host.moveFile source target)
    (recording.moveFile source target)
  makeDirectories : ∀ path,
    TryMirrors kind (host.makeDirectories path) (recording.makeDirectories path)
  document? : recording.document? = host.document?
  request : ∀ url, Mirrors kind (host.request url) (recording.request url)
  fetchFeed : ∀ url, TryMirrors kind (host.fetchFeed url) (recording.fetchFeed url)
  openLedger : TryMirrors kind host.openLedger recording.openLedger
  ledgerHolds : ∀ id, TryMirrors kind (host.ledgerHolds id) (recording.ledgerHolds id)
  enterLedger : ∀ entry, TryMirrors kind (host.enterLedger entry) (recording.enterLedger entry)
  sleep : ∀ seconds, TryMirrors kind (host.sleep seconds) (recording.sleep seconds)

theorem mirrored_recorded (host : Host (StateM World)) :
    host.Mirrored Call.KeepsLock host.recorded where
  log line := .recordCall (fun _ => .log line) (fun _ => trivial) _
  print text := .recordCall (fun _ => .print text) (fun _ => trivial) _
  hasPath path := .recordCall (fun _ => .hasPath path) (fun _ => trivial) _
  readFile path := .recordTry (fun _ => .readFile path) (fun _ => trivial) _
  writeFile path text := .recordTry (fun _ => .writeFile path text) (fun _ => trivial) _
  appendFile file text := .recordTry (fun _ => .appendFile file text) (fun _ => trivial) _
  moveFile source target := .recordTry (fun _ => .moveFile source target) (fun _ => trivial) _
  makeDirectories path := .recordTry (fun _ => .makeDirectories path) (fun _ => trivial) _
  document? := rfl
  request url := .recordCall (fun _ => .request url) (fun _ => trivial) _
  fetchFeed url := .recordTry (fun _ => .fetchFeed url) (fun _ => trivial) _
  openLedger := .recordTry (fun _ => .openLedger) (fun _ => trivial) _
  ledgerHolds id := .recordTry (fun _ => .ledgerHolds id) (fun _ => trivial) _
  enterLedger entry := .recordTry (fun _ => .enterLedger entry) (fun _ => trivial) _
  sleep seconds := .recordTry (fun _ => .sleep seconds) (fun _ => trivial) _

end Host

end ReleaseWatch
