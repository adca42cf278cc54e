import ReleaseWatch.Proofs.Files.Tree
import ReleaseWatch.Proofs.Saving.Desk
import ReleaseWatch.Proofs.Saving.DownloadName

/-!
# Downloads into a directory

A download is written under a name of its own and is moved to its place when it is complete. So a
directory has either the file that it had before or the whole body of a successful answer, and
nothing else in it changes.
-/

namespace ReleaseWatch

theorem Path.join_append (folder name ending : String) :
    join folder name ++ ending = join folder (name ++ ending) := by
  unfold join
  split
  · exact String.append_assoc
  · exact String.append_assoc

theorem FileName.ne_path_of_ofNumber {number : Int} {path : String} :
    ofNumber number ≠ .ok (.path path) := by
  unfold ofNumber
  split
  · exact nofun
  · split <;> exact nofun

theorem Value.eq_text_of_fileName {value : Value} {path : String}
    (named : value.fileName = .ok (.path path)) : value = .text path := by
  unfold fileName at named
  split at named
  · cases named
    rfl
  · cases named
  · exact absurd named FileName.ne_path_of_ofNumber
  · cases named

namespace Desk

variable {holder settingsPath : String} {document? : String → Option Value}
    {places : Path → Prop} {begun : FileTree}

theorem keeps_changesOnly {step : FileTree → Except Failure FileTree}
    (stays : ∀ tree other, begun.ChangesOnly places tree → step tree = .ok other →
      begun.ChangesOnly places other) :
    Keeps (fun desk => begun.ChangesOnly places desk.files) (changeFiles step) := by
  intro desk before
  rw [perform_changeFiles]
  cases stepped : step desk.files with
  | error failure => exact before
  | ok other => exact stays desk.files other before stepped

/-- An answer that is not kept leaves what writing the incomplete file leaves. -/
theorem holds_of_keepAnswer_fails {holds : Desk → Prop} {path : String} {answer : Answer}
    {desk reached : Desk} {failure : Failure} (write : ∀ text,
      Keeps holds ((host holder settingsPath document?).writeFile (path ++ ".part") text))
    (before : holds desk)
    (failed : perform (SaveSettings.keepAnswer (host holder settingsPath document?) path answer)
      desk = (.error failure, reached)) : holds reached := by
  cases whole : answer.body? with
  | none =>
      rcases SaveSettings.keepAnswer_of_no_body (host holder settingsPath document?) path whole with
        refused | ⟨arrived, refused⟩
      · rw [refused] at failed
        cases failed
        exact before
      · have keeps :
            Keeps holds
              (SaveSettings.keepAnswer (host holder settingsPath document?) path answer) := by
          rw [refused]
          exact Keeps.bind (write arrived) fun _ => .ofOutcome (.error .download)
        exact keeps.reached failed before
  | some body =>
      rw [SaveSettings.keepAnswer_of_body whole, perform_bind] at failed
      have after := write body desk before
      generalize perform ((host holder settingsPath document?).writeFile (path ++ ".part") body)
        desk = ran at failed after
      rcases ran with ⟨_ | _, written⟩
      · cases failed
        exact after
      · dsimp only at failed
        rw [moveFile_eq] at failed
        rw [eq_of_changeFiles_fails failed]
        exact after

theorem exists_perform_download {directory : Value} {folder name : String} {entry : Entry}
    (isFolder : directory = .text folder) (named : entry.downloadName = .ok name) (desk : Desk) :
    ∃ asked : Desk, asked.files = desk.files ∧
      perform (SaveSettings.download (host holder settingsPath document?) directory entry) desk =
        perform (SaveSettings.keepAnswer (host holder settingsPath document?)
          (Path.join folder name) (desk.network.request entry.torrentUrl).1) asked := by
  rw [SaveSettings.perform_download_of_named isFolder named]
  refine ⟨_, ?_, rfl⟩
  rfl

theorem keeps_network_addLines (settings : SaveSettings) (entry : Entry) (network : Network) :
    Keeps (fun desk => desk.network = network)
      (settings.addLines (host holder settingsPath document?) entry) := by
  apply SaveSettings.keeps_addLines
  · intro text desk before
    exact before
  · intro target file text _ _ _ desk before
    cases file with
    | path path =>
        rw [appendFile_eq, perform_changeFiles]
        split <;> exact before
    | number number =>
        rw [perform_appendFile_number]
        split <;> exact before

theorem files_concludes (entry : Entry) (desk : Desk) :
    (perform (SaveSettings.concludes (host holder settingsPath document?) entry) desk).2.files =
      desk.files := by
  unfold SaveSettings.concludes
  rw [perform_bind, perform_enterLedger]
  cases desk.ledger.enter entry with
  | ok ledger => rfl
  | error failure => rfl

end Desk

namespace SaveSettings

variable {settings : SaveSettings} {tree other : FileTree} {place file : Path}

/-- A list that the settings name is kept at a place. -/
def ListsAt (settings : SaveSettings) (tree : FileTree) (file : Path) : Prop :=
  ∃ path, (.text path = settings.urlFile ∨ .text path = settings.magnetFile) ∧
    path ≠ "-" ∧
    tree.writable path = .ok file

/-- The settings name a directory to download into, and it is at a place. -/
def DownloadsInto (settings : SaveSettings) (tree : FileTree) (place : Path) : Prop :=
  ∃ folder, settings.directory = .text folder ∧ tree.LeadsTo folder place

theorem ListsAt.of_sameDirectories (isList : settings.ListsAt tree file)
    (same : tree.SameDirectories other) :
    settings.ListsAt other file := by
  rcases isList with ⟨path, isList, isFile, written⟩
  exact ⟨path, isList, isFile, FileTree.writable_eq_ok_of_sameDirectories same written⟩

theorem DownloadsInto.of_sameDirectories (into : settings.DownloadsInto tree place)
    (same : tree.SameDirectories other) : settings.DownloadsInto other place := by
  rcases into with ⟨folder, isFolder, leads⟩
  exact ⟨folder, isFolder, leads.of_sameDirectories same⟩

theorem DownloadsInto.unique {found : Path} (into : settings.DownloadsInto tree place)
    (into' : settings.DownloadsInto tree found) : place = found := by
  rcases into with ⟨folder, isFolder, leads⟩
  rcases into' with ⟨_, isFolder', leads'⟩
  cases isFolder.symm.trans isFolder'
  exact leads.unique leads'

end SaveSettings

namespace Save

variable {holder settingsPath : String} {document? : String → Option Value} {save : Save Desk}
  {places : Path → Prop} {place : Path} {name : String}

def ListsAt (save : Save Desk) (file : Path) : Prop :=
  save.settings.ListsAt save.world.files file

def DownloadsInto (save : Save Desk) (place : Path) : Prop :=
  save.settings.DownloadsInto save.world.files place

/-- A save keeps an incomplete download at a place. -/
def DownloadsBeside (save : Save Desk) (file : Path) : Prop :=
  ∃ place name, save.DownloadsInto place ∧ save.entry.downloadName = .ok name ∧
    file = place ++ [name ++ ".part"]

theorem keeps_changesOnly_addLines (inside : ∀ file, save.ListsAt file → places file) :
    Keeps (fun desk => save.world.files.ChangesOnly places desk.files)
      (save.settings.addLines (Desk.host holder settingsPath document?) save.entry) := by
  apply SaveSettings.keeps_addLines
  · intro text desk before
    exact before
  · intro target file text isList isFile named
    cases file with
    | path path =>
        rw [Desk.appendFile_eq]
        apply Desk.keeps_changesOnly
        intro tree other before appended
        refine before.append (fun file written => inside file ?_) appended
        cases Value.eq_text_of_fileName named
        refine ⟨path, isList, ?_, written⟩
        rintro rfl
        exact isFile rfl
    | number number =>
        intro desk before
        rw [Desk.perform_appendFile_number]
        split <;> exact before

theorem keeps_changesOnly_writeFile {path text : String}
    (inside : ∀ file, save.world.files.writable path = .ok file → places file) :
    Keeps (fun desk => save.world.files.ChangesOnly places desk.files)
      ((Desk.host holder settingsPath document?).writeFile path text) := by
  rw [Desk.writeFile_eq]
  apply Desk.keeps_changesOnly
  intro tree other before written
  exact before.write inside written

theorem folder_ne_empty {folder : String} (isSet : save.settings.directory.isTruthy = true)
    (isFolder : save.settings.directory = .text folder) : folder ≠ "" := by
  rintro rfl
  rw [isFolder] at isSet
  cases isSet

theorem inside_of_downloadsBeside {folder : String}
    (beside : ∀ file, save.DownloadsBeside file → places file)
    (isSet : save.settings.directory.isTruthy = true)
    (isFolder : save.settings.directory = .text folder)
    (named : save.entry.downloadName = .ok name) {file : Path}
    (written : save.world.files.writable (Path.join folder name ++ ".part") = .ok file) :
    places file := by
  have notEmpty := folder_ne_empty isSet isFolder
  have isName := Entry.isDownloadName_of_downloadName named
  rw [Path.join_append] at written
  rcases FileTree.exists_leadsTo_of_writable_join notEmpty isName.isFileName_part written with
    ⟨place, leads, rfl⟩
  exact beside _ ⟨place, name, ⟨folder, isFolder, leads⟩, named, rfl⟩

theorem changesOnly_of_download_fails {desk fetched : Desk} {failure : Failure}
    (beside : ∀ file, save.DownloadsBeside file → places file)
    (before : save.world.files.ChangesOnly places desk.files)
    (failed : (save.settings.downloadIfSet (Desk.host holder settingsPath document?) save.entry).run
      desk = (.error failure, fetched)) : save.world.files.ChangesOnly places fetched.files := by
  unfold SaveSettings.downloadIfSet at failed
  split at failed
  · next isSet =>
      change perform (SaveSettings.download _ _ _) desk = _ at failed
      cases named : save.entry.downloadName with
      | error failure =>
          rw [SaveSettings.perform_download_of_unnamed named] at failed
          cases failed
          exact before
      | ok name =>
          by_cases isFolder : ∃ folder, save.settings.directory = .text folder
          · rcases isFolder with ⟨folder, isFolder⟩
            have write : ∀ text,
                Keeps (fun desk => save.world.files.ChangesOnly places desk.files)
                ((Desk.host holder settingsPath document?).writeFile
                  (Path.join folder name ++ ".part") text) :=
              fun text => keeps_changesOnly_writeFile fun file =>
                inside_of_downloadsBeside beside isSet isFolder named
            rcases Desk.exists_perform_download isFolder named desk with
              ⟨asked, same, performed⟩
            rw [performed] at failed
            exact Desk.holds_of_keepAnswer_fails write (same ▸ before) failed
          · rw [SaveSettings.perform_download_of_not_text named fun folder same =>
              isFolder ⟨folder, same⟩] at failed
            cases failed
            exact before
  · cases failed

/-- A save that is not complete changes its lists and leaves an incomplete file at most. -/
theorem changesOnly_of_not_isComplete
    (incomplete : ¬save.IsComplete (Desk.host holder settingsPath document?)) :
    save.world.files.ChangesOnly (fun file => save.ListsAt file ∨ save.DownloadsBeside file)
      (save.result (Desk.host holder settingsPath document?)).2.files := by
  apply holds_result_of_not_isComplete _ _ (keeps_changesOnly_addLines fun _ => Or.inl) _ incomplete
    (.refl _ _)
  · intro line desk before
    exact before
  · intro desk before
    rw [Desk.perform_isSaved]
    exact before
  · intro listed failure fetched before failed
    -- The directories are those of the beginning, so the incomplete file is where it would have
    -- been then.
    exact changesOnly_of_download_fails (fun _ => Or.inr) before failed

/-- What a save makes of the directory that it downloads into, if it is complete. -/
structure Delivers (save : Save Desk) (after : Desk) (place : Path) (name body : String) :
    Prop where
  downloadsInto : save.DownloadsInto place
  named : save.entry.downloadName = .ok name
  whole : (save.world.network.request save.entry.torrentUrl).1.body? = some body
  changes : save.world.files.ChangesOnly
    (fun file => save.ListsAt file ∨ file = place ++ [name] ∨
      file = place ++ [name ++ ".part"]) after.files
  delivered : after.files.text? (place ++ [name]) = some body
  noPart : after.files.text? (place ++ [name ++ ".part"]) = none
  noDirectory : after.files.isDirectory (place ++ [name ++ ".part"]) = false

theorem IsNew.eq_world {asked : Desk}
    (isNew : save.IsNew (Desk.host holder settingsPath document?) asked) :
    asked = save.world := by
  have looked := congrArg Prod.snd isNew.2
  rw [Desk.perform_isSaved] at looked
  exact looked.symm

/-- A download that comes to its end has put the whole body of the answer under its name. -/
theorem exists_of_fetches {listed done : Desk} (isSet : save.settings.directory.isTruthy = true)
    (fetches : SaveSettings.Fetches (Desk.host holder settingsPath document?)
      save.settings.directory save.entry listed done) :
    ∃ folder place name body, save.settings.directory = .text folder ∧
      listed.files.LeadsTo folder place ∧
      save.entry.downloadName = .ok name ∧
      (listed.network.request save.entry.torrentUrl).1.body? = some body ∧
      listed.files.ChangesOnly (fun file => file = place ++ [name] ∨
        file = place ++ [name ++ ".part"]) done.files ∧
      done.files.text? (place ++ [name]) = some body ∧
      done.files.text? (place ++ [name ++ ".part"]) = none ∧
      done.files.isDirectory (place ++ [name ++ ".part"]) = false := by
  rcases fetches with ⟨isFolder, named, answered, whole, kept, moved⟩
  rename_i folder name body answer asked written
  have asked_files : asked.files = listed.files := (congrArg (fun ran => ran.2.files) answered).symm
  have answer_eq : answer = (listed.network.request save.entry.torrentUrl).1 :=
    (congrArg Prod.fst answered).symm
  have isName := Entry.isDownloadName_of_downloadName named
  -- Beside the place of the download means under a name of the same folder.
  rw [Path.join_append, Desk.writeFile_eq] at kept
  rw [Path.join_append, Desk.moveFile_eq] at moved
  rcases Desk.exists_of_changeFiles_succeeds kept with ⟨partly, keptFiles, rfl⟩
  rcases Desk.exists_of_changeFiles_succeeds moved with ⟨wholly, movedFiles, rfl⟩
  dsimp only at keptFiles movedFiles
  rw [asked_files] at keptFiles
  rcases FileTree.exists_of_write_of_move (folder_ne_empty isSet isFolder) isName.isFileName
    isName.isFileName_part
    (Ne.symm (isName.ne_part name)) keptFiles movedFiles with ⟨place, leads, changes, delivered⟩
  rw [answer_eq] at whole
  exact ⟨folder, place, name, body, isFolder, leads, named, whole, changes, delivered⟩

theorem exists_delivers_of_isComplete (isSet : save.settings.directory.isTruthy = true)
    (complete : save.IsComplete (Desk.host holder settingsPath document?)) :
    ∃ place name body, save.Delivers (save.result (Desk.host holder settingsPath document?)).2
      place name body := by
  rcases complete with ⟨asked, done, isNew, completes⟩
  cases isNew.eq_world
  rw [result_of_completes isNew completes]
  rcases completes with ⟨listed, bothListed, first, second, fetched⟩
  have lines := SaveSettings.perform_addLines_eq_ok_iff.mpr ⟨listed, first, second⟩
  have listedOnly : save.world.files.ChangesOnly save.ListsAt bothListed.files := by
    exact (keeps_changesOnly_addLines fun _ isList => isList).reached lines (.refl _ _)
  have sameNetwork : bothListed.network = save.world.network := by
    exact (Desk.keeps_network_addLines save.settings save.entry save.world.network).reached lines
      rfl
  -- The download begins where the lists end, in other files but in the same directories.
  rw [SaveSettings.FetchesIfSet, if_pos isSet] at fetched
  rcases exists_of_fetches isSet fetched with
    ⟨folder, place, name, body, isFolder, leads, named, whole, changes, delivered, noPart,
      noDirectory⟩
  rw [sameNetwork] at whole
  refine ⟨place, name, body,
    ⟨folder, isFolder, leads.of_sameDirectories listedOnly.sameDirectories.symm⟩, named,
    whole, ?_, ?_, ?_, ?_⟩
  · rw [Desk.files_concludes]
    exact (listedOnly.mono fun _ => Or.inl).trans (changes.mono fun _ => Or.inr)
  · rw [Desk.files_concludes]
    exact delivered
  · rw [Desk.files_concludes]
    exact noPart
  · rw [Desk.files_concludes]
    exact noDirectory

end Save

end ReleaseWatch
