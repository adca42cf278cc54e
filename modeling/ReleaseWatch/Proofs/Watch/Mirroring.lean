import ReleaseWatch.Proofs.Host.Recording
import ReleaseWatch.Proofs.Saving.Course
import ReleaseWatch.Watch.Run

/-!
# The parts of a watcher, with a record

Whatever a session does, it does through its host. So on a host that keeps a record each of its
parts does what it does without one, and adds calls of a kind, if only the single actions of the
host do. The parts follow those of the watcher one by one, each by those that it is made of.
Loading settings asks for little, and is there by itself.
-/

namespace ReleaseWatch

variable {World : Type} {kind : Call → Prop} {host : Host (StateM World)}
    {recording : Host (StateM (Recording World))}

namespace Settings

/-! ## Loading settings -/

/-- What loading settings from a path asks of a host is mirrored. -/
structure MirrorsFiles (kind : Call → Prop) (host : Host (StateM World))
    (recording : Host (StateM (Recording World))) (path : String) : Prop where
  hasPath : Mirrors kind (host.hasPath path) (recording.hasPath path)
  readFile : TryMirrors kind (host.readFile path) (recording.readFile path)
  makeDirectories : TryMirrors kind (host.makeDirectories (Path.directoryOf path))
    (recording.makeDirectories (Path.directoryOf path))
  writeFile : TryMirrors kind (host.writeFile path DefaultSettings.text)
    (recording.writeFile path DefaultSettings.text)
  document? : recording.document? = host.document?

namespace MirrorsFiles

variable {path : String} (files : MirrorsFiles kind host recording path)

include files

theorem writeDefault :
    TryMirrors kind (Settings.writeDefault host path) (Settings.writeDefault recording path) := by
  unfold Settings.writeDefault
  dsimp only
  split
  · exact .bind files.makeDirectories fun _ => files.writeFile
  · exact files.writeFile

theorem readDocument :
    TryMirrors kind (Settings.readDocument host path) (Settings.readDocument recording path) := by
  unfold Settings.readDocument
  refine .bind (.liftM files.hasPath) fun isThere => ?_
  split
  · refine .bind files.readFile fun text => ?_
    rw [files.document?]
    split
    · exact .ofOutcome (.ok _)
    · exact .ofOutcome (.error _)
  · exact .bind files.writeDefault fun _ => .ofOutcome (.error _)

theorem load : TryMirrors kind (Settings.load host path) (Settings.load recording path) := by
  unfold Settings.load
  exact .bind files.readDocument fun document => .ofOutcome (ofDocument document)

end MirrorsFiles

end Settings

theorem Processor.mirrors_handOver {save : Entry → StateM World (Except Failure Unit)}
    {recordingSave : Entry → StateM (Recording World) (Except Failure Unit)}
    (saves : ∀ entry, Mirrors kind (save entry) (recordingSave entry)) (entries : List Entry) :
    Mirrors kind (handOver save entries) (handOver recordingSave entries) := by
  induction entries with
  | nil => exact .pure _
  | cons entry rest ih =>
      unfold handOver
      refine .bind (saves entry) fun outcome => ?_
      split
      · exact .pure _
      · exact .bind ih fun _ => .pure _

namespace Host.Mirrored

/-! ## The parts of a session -/

variable (mirrored : host.Mirrored kind recording)

include mirrored

theorem note (level : Level) (text : String) :
    Mirrors kind (host.note level text) (recording.note level text) :=
  mirrored.log { level, text }

theorem replay {α : Type} (computation : Logged α) :
    TryMirrors kind (host.replay computation) (recording.replay computation) := by
  unfold Host.replay
  refine .bind (.forM (fun line => .liftM (mirrored.log line)) _) fun _ => ?_
  exact .ofOutcome computation.outcome

theorem addLine (target : Value) (line : String) :
    TryMirrors kind (SaveSettings.addLine host target line)
      (SaveSettings.addLine recording target line) := by
  unfold SaveSettings.addLine
  split
  · exact .liftM (mirrored.print _)
  · exact .bind (.ofOutcome _) fun file => mirrored.appendFile file _

theorem addIfSet (target : Value) (line? : Option String) :
    TryMirrors kind (SaveSettings.addIfSet host target line?)
      (SaveSettings.addIfSet recording target line?) := by
  unfold SaveSettings.addIfSet
  split
  · exact mirrored.addLine target _
  · exact .ofOutcome (.ok ())

theorem addLines (settings : SaveSettings) (entry : Entry) :
    TryMirrors kind (settings.addLines host entry) (settings.addLines recording entry) := by
  rw [SaveSettings.addLines_eq, SaveSettings.addLines_eq]
  exact .bind (mirrored.addIfSet _ _) fun _ => mirrored.addIfSet _ _

theorem keepAnswer (path : String) (answer : Answer) :
    TryMirrors kind (SaveSettings.keepAnswer host path answer)
      (SaveSettings.keepAnswer recording path answer) := by
  unfold SaveSettings.keepAnswer
  split
  · exact .ofOutcome (.error .download)
  · split
    · refine .bind (mirrored.writeFile _ _) fun _ => ?_
      split
      · exact mirrored.moveFile _ _
      · exact .ofOutcome (.error .download)
    · exact .ofOutcome (.error .download)

theorem download (directory : Value) (entry : Entry) :
    TryMirrors kind (SaveSettings.download host directory entry)
      (SaveSettings.download recording directory entry) := by
  unfold SaveSettings.download
  refine .bind (.ofOutcome _) fun name => .bind (.ofOutcome _) fun place => ?_
  refine .bind (.liftM (mirrored.note _ _)) fun _ => ?_
  refine .bind (.liftM (mirrored.request _)) fun answer => ?_
  exact mirrored.keepAnswer _ answer

theorem downloadIfSet (settings : SaveSettings) (entry : Entry) :
    Mirrors kind (settings.downloadIfSet host entry) (settings.downloadIfSet recording entry) := by
  unfold SaveSettings.downloadIfSet
  split
  · exact mirrored.download settings.directory entry
  · exact .pure (Except.ok ())

theorem isSaved (entry : Entry) :
    TryMirrors kind (SaveSettings.isSaved host entry) (SaveSettings.isSaved recording entry) := by
  unfold SaveSettings.isSaved
  split
  · exact .ofOutcome (.ok false)
  · exact mirrored.ledgerHolds _

theorem saveNew (settings : SaveSettings) (entry : Entry) :
    TryMirrors kind (settings.saveNew host entry) (settings.saveNew recording entry) := by
  unfold SaveSettings.saveNew
  refine .bind (mirrored.addLines settings entry) fun _ => ?_
  refine .bind (.liftM (mirrored.downloadIfSet settings entry)) fun outcome => ?_
  split
  · exact .bind (mirrored.enterLedger entry) fun _ => .liftM (mirrored.note _ _)
  · split
    · exact .liftM (mirrored.note _ _)
    · exact .ofOutcome (.error _)

theorem save (settings : SaveSettings) (entry : Entry) :
    TryMirrors kind (settings.save host entry) (settings.save recording entry) := by
  unfold SaveSettings.save
  split
  · refine .bind (mirrored.isSaved entry) fun known => ?_
    split
    · exact .liftM (mirrored.note _ _)
    · exact mirrored.saveNew settings entry
  · exact .liftM (mirrored.note _ _)

theorem refreshFeed (processor : Processor) (session : Session) (url : String) :
    Mirrors kind (processor.refresh (session.surroundings host) url)
      (processor.refresh (session.surroundings recording) url) := by
  unfold Processor.refresh
  refine .bind (mirrored.fetchFeed url) fun outcome => ?_
  split
  · exact .pure _
  · refine .bind (.forM (fun line => mirrored.log line) _) fun _ => ?_
    split
    · exact .pure _
    · exact .bind (Processor.mirrors_handOver (fun entry => mirrored.save session.saving entry) _)
        fun _ => .pure _

theorem reportFailure (failure : Failure) :
    TryMirrors kind (Session.reportFailure host failure)
      (Session.reportFailure recording failure) := by
  unfold Session.reportFailure
  split
  · exact .liftM (mirrored.note _ _)
  · exact .liftM (mirrored.note _ _)
  · exact .ofOutcome (.error _)

theorem refresh (session : Session) :
    TryMirrors kind (session.refresh host) (session.refresh recording) := by
  unfold Session.refresh
  refine .bind (.liftM (mirrored.refreshFeed _ session _)) fun refreshed => ?_
  split
  · exact .ofOutcome (.ok _)
  · exact .bind (mirrored.reportFailure _) fun _ => .ofOutcome (.ok _)

theorem files (path : String) : Settings.MirrorsFiles kind host recording path where
  hasPath := mirrored.hasPath path
  readFile := mirrored.readFile path
  makeDirectories := mirrored.makeDirectories _
  writeFile := mirrored.writeFile path _
  document? := mirrored.document?

theorem loadRules (path : String) (session : Session) :
    Mirrors kind (session.loadRules host path) (session.loadRules recording path) := by
  unfold Session.loadRules
  refine .bind (mirrored.files path).load fun outcome => ?_
  split
  · exact .pure _
  · exact .bind (mirrored.replay _) fun _ => .pure _

theorem reload (path : String) (session : Session) :
    TryMirrors kind (session.reload host path) (session.reload recording path) := by
  unfold Session.reload
  refine .bind (.liftM (mirrored.note _ _)) fun _ => ?_
  refine .bind (.liftM (mirrored.loadRules path session)) ?_
  rintro ⟨reached, outcome⟩
  dsimp only
  split
  · exact .ofOutcome (.ok _)
  · split
    · exact .bind (.liftM (mirrored.note _ _)) fun _ => .ofOutcome (.ok _)
    · exact .ofOutcome (.error _)

theorem watch (path : String) (once : Bool) (sleeps : Nat) (session : Session) :
    TryMirrors kind (session.watch host path once sleeps)
      (session.watch recording path once sleeps) := by
  induction sleeps generalizing session with
  | zero =>
      unfold Session.watch
      refine .bind (mirrored.refresh session) fun refreshed => ?_
      split
      · exact .ofOutcome (.ok _)
      · refine .bind (.liftM (mirrored.note _ _)) fun _ => ?_
        exact .bind (mirrored.sleep _) fun _ => .ofOutcome (.ok _)
  | succ sleeps ih =>
      unfold Session.watch
      refine .bind (mirrored.refresh session) fun refreshed => ?_
      split
      · exact .ofOutcome (.ok _)
      · refine .bind (.liftM (mirrored.note _ _)) fun _ => ?_
        refine .bind (mirrored.sleep _) fun _ => ?_
        exact .bind (mirrored.reload path refreshed) fun reloaded => ih _

theorem watchFeed (watcher : Watcher) (settings : Settings) (once : Bool) (sleeps : Nat) :
    TryMirrors kind (watcher.watchFeed host settings once sleeps)
      (watcher.watchFeed recording settings once sleeps) := by
  unfold Watcher.watchFeed
  refine .bind mirrored.openLedger fun ids => ?_
  refine .bind (.liftM (mirrored.note _ _)) fun _ => ?_
  refine .bind (.liftM (mirrored.replay _)) fun outcome => ?_
  split
  · exact mirrored.watch _ _ _ _
  · exact .bind (.liftM (mirrored.note _ _)) fun _ => .ofOutcome (.ok _)
  · exact .ofOutcome (.error _)

end Host.Mirrored

end ReleaseWatch
