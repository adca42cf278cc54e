import ReleaseWatch.Proofs.Action
import ReleaseWatch.Saving.Save

/-!
# The course of a save

A save is complete when every action that its settings ask for comes to its end: the address
in the list of addresses, the magnet address in the list of these, the whole body of a
successful answer under its name in the directory. A complete save ends with the ledger. Any
other one is over before that, however far it came, so that it keeps whatever all actions but
the entry in the ledger keep.
-/

namespace ReleaseWatch

/-- The magnet address of an entry, if it has one. -/
def Entry.magnet? (entry : Entry) : Option String :=
  entry.magnetUri.filter (· ≠ "")

namespace SaveSettings

variable {World : Type}

section Actions

variable (host : Host (StateM World))

/-- A line was added to the file that a value names, or to the standard output if that is a dash. -/
inductive Adds : Value → String → World → World → Prop
  | printed (line : String) (world : World) :
      Adds (.text "-") line world ((host.print (line ++ "\n")).run world).2
  | appended {target : Value} {file : FileName} {line : String} {world reached : World}
      (isFile : target ≠ .text "-") (named : target.fileName = .ok file)
      (appended : perform (host.appendFile file (line ++ "\n")) world = (.ok (), reached)) :
      Adds target line world reached

/-- A line was added to a list, as far as the list is set and there is a line for it. -/
def Lists (target : Value) (line? : Option String) (world reached : World) : Prop :=
  match if target.isTruthy then line? else none with
  | some line => Adds host target line world reached
  | none => reached = world

/--
The whole body of a successful answer was written beside the place of a download and moved there.
-/
inductive Fetches (directory : Value) (entry : Entry) (world : World) : World → Prop
  | intro {folder name body : String} {answer : Answer} {asked written reached : World}
      (isFolder : directory = .text folder) (named : entry.downloadName = .ok name)
      (answered : (host.request entry.torrentUrl).run
        ((host.note .info ("Fetching \"" ++ name ++ "\"")).run world).2 = (answer, asked))
      (whole : answer.body? = some body)
      (kept : perform (host.writeFile (Path.join folder name ++ ".part") body) asked =
        (.ok (), written))
      (moved : perform (host.moveFile (Path.join folder name ++ ".part") (Path.join folder name))
        written = (.ok (), reached)) :
      Fetches directory entry world reached

/-- An entry was downloaded, as far as a directory is set. -/
def FetchesIfSet (settings : SaveSettings) (entry : Entry) (world reached : World) : Prop :=
  if settings.directory.isTruthy then Fetches host settings.directory entry world reached
  else reached = world

/-- Every action that the settings ask for came to its end. -/
def Completes (settings : SaveSettings) (entry : Entry) (world reached : World) : Prop :=
  ∃ listed bothListed, Lists host settings.urlFile (some entry.torrentUrl) world listed ∧
    Lists host settings.magnetFile entry.magnet? listed bothListed ∧
    FetchesIfSet host settings entry bothListed reached

end Actions

variable {host : Host (StateM World)} {settings : SaveSettings} {entry : Entry}
    {world reached : World}

theorem perform_addLine_eq_ok_iff {target : Value} {line : String} :
    perform (addLine host target line) world = (.ok (), reached) ↔
      Adds host target line world reached := by
  constructor
  · intro added
    unfold addLine at added
    split at added
    · cases added
      exact .printed line world
    · next isFile =>
        rcases perform_bind_eq_ok_iff.mp added with ⟨file, between, named, appended⟩
        cases named' : target.fileName with
        | error failure =>
            rw [named'] at named
            cases named
        | ok other =>
            rw [named'] at named
            cases named
            exact .appended (fun same => isFile same) named' appended
  · intro added
    cases added with
    | printed => rfl
    | appended isFile named appended =>
        unfold addLine
        split
        · exact absurd rfl isFile
        · rw [named]
          exact appended

/-- Adds a line to a list, as far as the list is set and there is a line for it. -/
def addIfSet (host : Host (StateM World)) (target : Value) (line? : Option String) :
    ExceptT Failure (StateM World) Unit :=
  match if target.isTruthy then line? else none with
  | some line => addLine host target line
  | none => pure ()

theorem perform_addIfSet_eq_ok_iff {target : Value} {line? : Option String} :
    perform (addIfSet host target line?) world = (.ok (), reached) ↔
      Lists host target line? world reached := by
  unfold addIfSet Lists
  split
  · exact perform_addLine_eq_ok_iff
  · constructor
    · intro added
      cases added
      rfl
    · rintro rfl
      rfl

theorem addLines_eq (host : Host (StateM World)) (settings : SaveSettings) (entry : Entry) :
    settings.addLines host entry =
      (do addIfSet host settings.urlFile (some entry.torrentUrl)
          addIfSet host settings.magnetFile entry.magnet?) := by
  unfold addLines addIfSet Entry.magnet?
  rcases entry.magnetUri with _ | uri
  · cases settings.urlFile.isTruthy <;> cases settings.magnetFile.isTruthy <;> rfl
  · by_cases empty : uri = ""
    · subst empty
      cases settings.urlFile.isTruthy <;> cases settings.magnetFile.isTruthy <;> rfl
    · have kept : (some uri).filter (· ≠ "") = some uri := by simp [Option.filter, empty]
      rw [kept]
      cases settings.urlFile.isTruthy <;> cases settings.magnetFile.isTruthy <;> simp

theorem perform_addLines_eq_ok_iff :
    perform (settings.addLines host entry) world = (.ok (), reached) ↔
      ∃ listed, Lists host settings.urlFile (some entry.torrentUrl) world listed ∧
        Lists host settings.magnetFile entry.magnet? listed reached := by
  rw [addLines_eq, perform_bind_eq_ok_iff]
  constructor
  · rintro ⟨_, listed, first, second⟩
    exact ⟨listed, perform_addIfSet_eq_ok_iff.mp first, perform_addIfSet_eq_ok_iff.mp second⟩
  · rintro ⟨listed, first, second⟩
    exact ⟨(), listed, perform_addIfSet_eq_ok_iff.mpr first,
      perform_addIfSet_eq_ok_iff.mpr second⟩

/-- What becomes of an answer, by the whole body that it brought or did not bring. -/
theorem keepAnswer_of_body {path body : String} {answer : Answer}
    (whole : answer.body? = some body) :
    keepAnswer host path answer =
      (do host.writeFile (path ++ ".part") body
          host.moveFile (path ++ ".part") path) := by
  cases answer with
  | unreachable => cases whole
  | reply code arrived isWhole =>
      simp only [Answer.body?, Bool.and_eq_true, Option.ite_none_right_eq_some, Option.some.injEq]
        at whole
      rcases whole with ⟨⟨success, rfl⟩, rfl⟩
      simp [keepAnswer, success]

theorem keepAnswer_of_no_body (host : Host (StateM World)) (path : String) {answer : Answer}
    (broken : answer.body? = none) :
    keepAnswer host path answer = throw .download ∨
      ∃ arrived, keepAnswer host path answer =
        (do host.writeFile (path ++ ".part") arrived
            throw .download) := by
  cases answer with
  | unreachable => exact Or.inl rfl
  | reply code arrived isWhole =>
      simp only [Answer.body?, ite_eq_right_iff] at broken
      cases success : Answer.isSuccess code with
      | false =>
          left
          simp [keepAnswer, success]
      | true =>
          right
          cases isWhole with
          | false => exact ⟨arrived, by simp [keepAnswer, success]⟩
          | true => simp [success] at broken

theorem perform_download_of_named {directory : Value} {folder name : String}
    (isFolder : directory = .text folder) (named : entry.downloadName = .ok name) :
    perform (download host directory entry) world =
      let noted := ((host.note .info ("Fetching \"" ++ name ++ "\"")).run world).2
      let asked := (host.request entry.torrentUrl).run noted
      perform (keepAnswer host (Path.join folder name) asked.1) asked.2 := by
  subst isFolder
  unfold download
  rw [named]
  rfl

theorem perform_download_of_unnamed {directory : Value} {failure : Failure}
    (unnamed : entry.downloadName = .error failure) :
    perform (download host directory entry) world = (.error failure, world) := by
  unfold download
  rw [unnamed]
  rfl

theorem perform_download_of_not_text {directory : Value} {name : String}
    (named : entry.downloadName = .ok name) (isNoFolder : ∀ folder, directory ≠ .text folder) :
    perform (download host directory entry) world = (.error .pathExpected, world) := by
  unfold download Value.directoryPath
  rw [named]
  split
  · next folder => exact absurd rfl (isNoFolder folder)
  · rfl

theorem perform_download_eq_ok_iff {directory : Value} :
    perform (download host directory entry) world = (.ok (), reached) ↔
      Fetches host directory entry world reached := by
  constructor
  · intro fetched
    cases named : entry.downloadName with
    | error failure =>
        rw [perform_download_of_unnamed named] at fetched
        cases fetched
    | ok name =>
        by_cases isFolder : ∃ folder, directory = .text folder
        · rcases isFolder with ⟨folder, isFolder⟩
          rw [perform_download_of_named isFolder named] at fetched
          dsimp only at fetched
          generalize answered : (host.request entry.torrentUrl).run
            ((host.note .info ("Fetching \"" ++ name ++ "\"")).run world).2 = ran at fetched
          rcases ran with ⟨answer, asked⟩
          cases whole : answer.body? with
          | none =>
              rcases keepAnswer_of_no_body host (Path.join folder name) whole with
                refused | ⟨arrived, refused⟩
              · rw [refused] at fetched
                cases fetched
              · rw [refused] at fetched
                rcases perform_bind_eq_ok_iff.mp fetched with ⟨_, _, _, never⟩
                cases never
          | some body =>
              rw [keepAnswer_of_body whole] at fetched
              rcases perform_bind_eq_ok_iff.mp fetched with ⟨_, written, kept, moved⟩
              exact .intro isFolder named answered whole kept moved
        · rw [perform_download_of_not_text named (fun folder same => isFolder ⟨folder, same⟩)]
            at fetched
          cases fetched
  · rintro ⟨isFolder, named, answered, whole, kept, moved⟩
    rw [perform_download_of_named isFolder named]
    dsimp only
    rw [answered, keepAnswer_of_body whole]
    exact perform_bind_eq_ok_iff.mpr ⟨(), _, kept, moved⟩

theorem run_downloadIfSet_eq_ok_iff :
    (settings.downloadIfSet host entry).run world = (.ok (), reached) ↔
      FetchesIfSet host settings entry world reached := by
  unfold downloadIfSet FetchesIfSet
  split
  · exact perform_download_eq_ok_iff
  · constructor
    · intro fetched
      cases fetched
      rfl
    · rintro rfl
      rfl

section Keeping

variable {holds : World → Prop}

theorem keeps_addLine {target : Value} {line : String}
    (print : ∀ text world, holds world → holds ((host.print text).run world).2)
    (append : ∀ file text, target ≠ .text "-" → target.fileName = .ok file →
      Keeps holds (host.appendFile file text)) :
    Keeps holds (addLine host target line) := by
  unfold addLine
  split
  · exact Keeps.liftM (print _)
  · next isFile => exact Keeps.bindOutcome fun file named => append file _ isFile named

theorem keeps_addIfSet {target : Value} {line? : Option String}
    (print : ∀ text world, holds world → holds ((host.print text).run world).2)
    (append : ∀ file text, target ≠ .text "-" → target.fileName = .ok file →
      Keeps holds (host.appendFile file text)) :
    Keeps holds (addIfSet host target line?) := by
  unfold addIfSet
  split
  · exact keeps_addLine print append
  · exact .ofOutcome (.ok ())

theorem keeps_addLines
    (print : ∀ text world, holds world → holds ((host.print text).run world).2)
    (append : ∀ target file text, target = settings.urlFile ∨ target = settings.magnetFile →
      target ≠ .text "-" → target.fileName = .ok file →
      Keeps holds (host.appendFile file text)) :
    Keeps holds (settings.addLines host entry) := by
  rw [addLines_eq]
  refine Keeps.bind (keeps_addIfSet print ?_) fun _ => keeps_addIfSet print ?_
  · exact fun file text => append settings.urlFile file text (Or.inl rfl)
  · exact fun file text => append settings.magnetFile file text (Or.inr rfl)

theorem keeps_keepAnswer {path : String} {answer : Answer}
    (write : ∀ path text, Keeps holds (host.writeFile path text))
    (move : ∀ source target, Keeps holds (host.moveFile source target)) :
    Keeps holds (keepAnswer host path answer) := by
  cases whole : answer.body? with
  | some body =>
      rw [keepAnswer_of_body whole]
      exact Keeps.bind (write _ _) fun _ => move _ _
  | none =>
      rcases keepAnswer_of_no_body host path whole with refused | ⟨arrived, refused⟩
      · rw [refused]
        exact .ofOutcome (.error .download)
      · rw [refused]
        exact Keeps.bind (write _ _) fun _ => .ofOutcome (.error .download)

theorem keeps_download {directory : Value}
    (log : ∀ line world, holds world → holds ((host.log line).run world).2)
    (request : ∀ url world, holds world → holds ((host.request url).run world).2)
    (write : ∀ path text, Keeps holds (host.writeFile path text))
    (move : ∀ source target, Keeps holds (host.moveFile source target)) :
    Keeps holds (download host directory entry) := by
  unfold download
  refine Keeps.bindOutcome fun name _ => ?_
  refine Keeps.bindOutcome fun folder _ => ?_
  refine Keeps.bind (.liftM (log _)) fun _ => ?_
  refine Keeps.bind (.liftM (request _)) fun answer => ?_
  exact keeps_keepAnswer write move

end Keeping

/-- The end of a complete save: the entry goes into the ledger and is reported. -/
def concludes (host : Host (StateM World)) (entry : Entry) :
    ExceptT Failure (StateM World) Unit := do
  host.enterLedger entry
  host.note .info entry.report

theorem perform_saveNew_of_completes {done : World}
    (completes : Completes host settings entry world done) :
    perform (settings.saveNew host entry) world = perform (concludes host entry) done := by
  rcases completes with ⟨listed, bothListed, first, second, fetched⟩
  have lines := perform_addLines_eq_ok_iff.mpr ⟨listed, first, second⟩
  have download := run_downloadIfSet_eq_ok_iff.mpr fetched
  unfold saveNew
  rw [perform_bind_of_ok lines, perform_bind, perform_lift, download]
  rfl

/--
What is kept by the log, by the lists and by a download that fails is kept by a save that is not
complete. A download that succeeds need not keep it.
-/
theorem holds_saveNew_of_not_completes {holds : World → Prop}
    (log : ∀ line world, holds world → holds ((host.log line).run world).2)
    (lines : Keeps holds (settings.addLines host entry))
    (failing : ∀ listed failure fetched, holds listed →
      (settings.downloadIfSet host entry).run listed = (.error failure, fetched) → holds fetched)
    (incomplete : ∀ done, ¬Completes host settings entry world done) (before : holds world) :
    holds (perform (settings.saveNew host entry) world).2 := by
  have listedHolds := lines world before
  unfold saveNew
  rw [perform_bind]
  generalize added : perform (settings.addLines host entry) world = ran at listedHolds
  rcases ran with ⟨outcome, listed⟩
  cases outcome with
  | error failure => exact listedHolds
  | ok _ =>
      dsimp only
      rw [perform_bind, perform_lift]
      generalize downloaded : (settings.downloadIfSet host entry).run listed = ran
      rcases ran with ⟨outcome, fetched⟩
      cases outcome with
      | ok _ =>
          rcases perform_addLines_eq_ok_iff.mp added with ⟨first, isListed, bothListed⟩
          exact absurd ⟨first, listed, isListed, bothListed,
            run_downloadIfSet_eq_ok_iff.mp downloaded⟩ (incomplete fetched)
      | error failure =>
          have fetchedHolds := failing listed failure fetched listedHolds downloaded
          dsimp only
          split
          · exact log _ fetched fetchedHolds
          · exact fetchedHolds

end SaveSettings

/-- A save of an entry by settings, and the world that it begins in. -/
structure Save (World : Type) where
  settings : SaveSettings
  entry : Entry
  world : World

namespace Save

variable {World : Type}

/-- What a save comes to, and the world after it. -/
def result (host : Host (StateM World)) (save : Save World) : Except Failure Unit × World :=
  perform (save.settings.save host save.entry) save.world

/-- The ledger was asked for the entry of a save that goes anywhere, and did not hold it. -/
def IsNew (host : Host (StateM World)) (save : Save World) (asked : World) : Prop :=
  save.settings.isEnabled = true ∧
    perform (SaveSettings.isSaved host save.entry) save.world = (.ok false, asked)

/-- A save went through all the actions that its settings ask for. -/
def IsComplete (host : Host (StateM World)) (save : Save World) : Prop :=
  ∃ asked done, save.IsNew host asked ∧ save.settings.Completes host save.entry asked done

variable {host : Host (StateM World)} {save : Save World}

theorem result_of_isNew {asked : World} (isNew : save.IsNew host asked) :
    save.result host = perform (save.settings.saveNew host save.entry) asked := by
  rcases isNew with ⟨enabled, unknown⟩
  unfold result SaveSettings.save
  rw [if_pos enabled, perform_bind_of_ok unknown]
  rfl

theorem result_of_not_enabled (disabled : save.settings.isEnabled = false) :
    save.result host = (.ok (), ((host.note .info save.entry.report).run save.world).2) := by
  unfold result SaveSettings.save
  rw [disabled]
  rfl

theorem result_of_saved {asked : World} (enabled : save.settings.isEnabled = true)
    (known : perform (SaveSettings.isSaved host save.entry) save.world = (.ok true, asked)) :
    save.result host = (.ok (),
      ((host.note .debug ("Skipping already saved entry " ++ Entry.idText save.entry.id)).run
        asked).2) := by
  unfold result SaveSettings.save
  rw [if_pos enabled, perform_bind_of_ok known]
  rfl

theorem result_of_unanswered {asked : World} {failure : Failure}
    (enabled : save.settings.isEnabled = true)
    (unanswered : perform (SaveSettings.isSaved host save.entry) save.world =
      (.error failure, asked)) :
    save.result host = (.error failure, asked) := by
  unfold result SaveSettings.save
  rw [if_pos enabled, perform_bind_of_error unanswered]

/--
A save goes nowhere, has no answer of the ledger,
passes its entry over, or takes it for a new one.
-/
theorem cases_of_save (host : Host (StateM World)) (save : Save World) :
    save.settings.isEnabled = false ∨
      save.settings.isEnabled = true ∧ ∃ asked,
        (∃ failure, perform (SaveSettings.isSaved host save.entry) save.world =
          (.error failure, asked)) ∨
        perform (SaveSettings.isSaved host save.entry) save.world = (.ok true, asked) ∨
        save.IsNew host asked := by
  cases enabled : save.settings.isEnabled with
  | false => exact Or.inl rfl
  | true =>
      refine Or.inr ⟨rfl, ?_⟩
      rcases answered : perform (SaveSettings.isSaved host save.entry) save.world with
        ⟨outcome, asked⟩
      refine ⟨asked, ?_⟩
      rcases outcome with failure | known
      · exact Or.inl ⟨failure, rfl⟩
      · cases known with
        | true => exact Or.inr (Or.inl rfl)
        | false => exact Or.inr (Or.inr ⟨enabled, answered⟩)

/--
What is kept by the log, the lists, a look into the ledger
and a failing download is kept by an incomplete save.
-/
theorem holds_result_of_not_isComplete {holds : World → Prop}
    (log : ∀ line world, holds world → holds ((host.log line).run world).2)
    (look : Keeps holds (SaveSettings.isSaved host save.entry))
    (lines : Keeps holds (save.settings.addLines host save.entry))
    (failing : ∀ listed failure fetched, holds listed →
      (save.settings.downloadIfSet host save.entry).run listed =
      (.error failure, fetched) → holds fetched)
    (incomplete : ¬save.IsComplete host) (before : holds save.world) :
    holds (save.result host).2 := by
  rcases save.cases_of_save host with
    disabled | ⟨enabled, asked, ⟨failure, unanswered⟩ | known | isNew⟩
  · rw [result_of_not_enabled disabled]
    exact log _ save.world before
  · rw [result_of_unanswered enabled unanswered]
    exact look.reached unanswered before
  · rw [result_of_saved enabled known]
    exact log _ asked (look.reached known before)
  · rw [result_of_isNew isNew]
    apply SaveSettings.holds_saveNew_of_not_completes log lines failing _
      (look.reached isNew.2 before)
    intro done completes
    exact incomplete ⟨asked, done, isNew, completes⟩

theorem result_of_completes {asked done : World} (isNew : save.IsNew host asked)
    (completes : save.settings.Completes host save.entry asked done) :
    save.result host = perform (SaveSettings.concludes host save.entry) done := by
  rw [result_of_isNew isNew, SaveSettings.perform_saveNew_of_completes completes]

end Save

end ReleaseWatch
