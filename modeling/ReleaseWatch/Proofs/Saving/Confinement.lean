import ReleaseWatch.Proofs.Saving.Download

/-!
# What a save changes in its directory

Whatever the title of an entry says, a save touches two files of the directory that it downloads
into, both of them directly in it: the file that has the name of the download, and the one beside
it for as long as it is incomplete. The first is as it was or the whole body of a successful
answer. An entry comes into the ledger with the latter only.
-/

namespace ReleaseWatch

namespace Save

variable {holder settingsPath : String} {document? : String → Option Value} {save : Save Desk}
    {place file : Path} {name : String}

/-- The download of a save is tried and fails. -/
def FailsToDownload {World : Type} (host : Host (StateM World)) (save : Save World) : Prop :=
  ∃ asked listed failure fetched, save.IsNew host asked ∧
    perform (save.settings.addLines host save.entry) asked = (.ok (), listed) ∧
    (save.settings.downloadIfSet host save.entry).run listed = (.error failure, fetched)

theorem FailsToDownload.not_isComplete {World : Type} {host : Host (StateM World)}
    {save : Save World} (fails : save.FailsToDownload host) : ¬save.IsComplete host := by
  rintro ⟨asked, done, isNew, listed, bothListed, first, second, fetched⟩
  rcases fails with ⟨_, _, failure, _, isNew', lines, failed⟩
  cases isNew.2.symm.trans isNew'.2
  cases (SaveSettings.perform_addLines_eq_ok_iff.mpr ⟨listed, first, second⟩).symm.trans lines
  cases (SaveSettings.run_downloadIfSet_eq_ok_iff.mpr fetched).symm.trans failed

def ListsOutside (save : Save Desk) (place : Path) : Prop :=
  ∀ file, save.ListsAt file → ¬place <+: file

theorem exists_isDownloadName (entry : Entry) :
    ∃ name, IsDownloadName name ∧ ∀ other, entry.downloadName = .ok other →
      other = name := by
  cases named : entry.downloadName with
  | error failure => exact ⟨".torrent", ⟨by decide, "", rfl⟩, fun _ never => nomatch never⟩
  | ok name =>
      refine ⟨name, Entry.isDownloadName_of_downloadName named, ?_⟩
      rintro other same
      cases same
      rfl

theorem text?_eq_of_not_isComplete
    (incomplete : ¬save.IsComplete (Desk.host holder settingsPath document?))
    (into : save.DownloadsInto place) (listsOutside : save.ListsOutside place)
    (below : place <+: file)
    (notPart : ∀ name, save.entry.downloadName = .ok name →
      file ≠ place ++ [name ++ ".part"]) :
    (save.result (Desk.host holder settingsPath document?)).2.files.text? file =
      save.world.files.text? file := by
  apply (changesOnly_of_not_isComplete incomplete).text?_eq
  rintro (isList | ⟨other, name, into', named, rfl⟩)
  · exact listsOutside file isList below
  · rw [into'.unique into] at notPart
    exact notPart name named rfl

theorem sameDirectories_result (isSet : save.settings.directory.isTruthy = true) :
    save.world.files.SameDirectories
      (save.result (Desk.host holder settingsPath document?)).2.files := by
  by_cases complete : save.IsComplete (Desk.host holder settingsPath document?)
  · rcases exists_delivers_of_isComplete isSet complete with ⟨place, name, body, delivers⟩
    exact delivers.changes.sameDirectories
  · exact (changesOnly_of_not_isComplete complete).sameDirectories

/--
A save that downloads into a directory makes no directories. In its own one it changes two
files at most, with names that a title cannot lead anywhere else. The one under the name of the
download stays as it was or becomes the whole body of a successful answer. What comes into the
ledger is there in full. Without such a body, or if the download fails, that file and the
ledger stay as they were.
-/
theorem download_is_atomic_and_confined (holder settingsPath : String)
    (document? : String → Option Value)
    (save : Save Desk) (isSet : save.settings.directory.isTruthy = true) :
    let host := Desk.host holder settingsPath document?
    let after := (save.result host).2
    let body? := (save.world.network.request save.entry.torrentUrl).1.body?
    save.world.files.SameDirectories after.files ∧
    ∃ name, IsDownloadName name ∧
      (∀ other, save.entry.downloadName = .ok other → other = name) ∧
      (∀ place, save.DownloadsInto place → save.ListsOutside place →
        (∀ file, place <+: file → file ≠ place ++ [name] →
          file ≠ place ++ [name ++ ".part"] →
          after.files.text? file = save.world.files.text? file) ∧
        (after.files.text? (place ++ [name]) = save.world.files.text? (place ++ [name]) ∨
          ∃ body, body? = some body ∧ after.files.text? (place ++ [name]) = some body)) ∧
      (after.ledger ≠ save.world.ledger → ∃ place body, save.DownloadsInto place ∧
        body? = some body ∧
        after.files.text? (place ++ [name]) = some body ∧
        after.files.text? (place ++ [name ++ ".part"]) = none ∧
        after.files.isDirectory (place ++ [name ++ ".part"]) = false) ∧
      (body? = none ∨ save.FailsToDownload host → after.ledger = save.world.ledger ∧
        ∀ place, save.DownloadsInto place → save.ListsOutside place →
          after.files.text? (place ++ [name]) = save.world.files.text? (place ++ [name])) := by
  intro host after body?
  rcases exists_isDownloadName save.entry with ⟨name, isName, eq_name⟩
  refine ⟨sameDirectories_result isSet, name, isName, eq_name, ?_⟩
  by_cases complete : save.IsComplete host
  · rcases exists_delivers_of_isComplete isSet complete with ⟨place, other, body, delivers⟩
    cases eq_name other delivers.named
    refine ⟨?_, ?_, ?_⟩
    · intro place' into listsOutside
      cases into.unique delivers.downloadsInto
      refine ⟨?_, Or.inr ⟨body, delivers.whole, delivers.delivered⟩⟩
      intro file below notFinal notPart
      apply delivers.changes.text?_eq
      rintro (isList | isFinal | isPart)
      · exact listsOutside file isList below
      · exact notFinal isFinal
      · exact notPart isPart
    · intro _
      exact ⟨place, body, delivers.downloadsInto, delivers.whole, delivers.delivered,
        delivers.noPart, delivers.noDirectory⟩
    · rintro (broken | fails)
      · cases broken.symm.trans delivers.whole
      · exact absurd complete fails.not_isComplete
  · have ledgerKept : after.ledger = save.world.ledger :=
      ledger_result_of_not_isComplete (Desk.hasLedger holder settingsPath document?) complete
    have finalKept : ∀ place, save.DownloadsInto place → save.ListsOutside place →
        after.files.text? (place ++ [name]) = save.world.files.text? (place ++ [name]) := by
      intro place into listsOutside
      apply text?_eq_of_not_isComplete complete into listsOutside (List.prefix_append _ _)
      intro other _ same
      exact isName.ne_part other (List.singleton_inj.mp (List.append_cancel_left same))
    refine ⟨?_, fun changed => absurd ledgerKept changed, fun _ => ⟨ledgerKept, finalKept⟩⟩
    intro place into listsOutside
    refine ⟨?_, Or.inl (finalKept place into listsOutside)⟩
    intro file below _ notPart
    apply text?_eq_of_not_isComplete complete into listsOutside below
    intro other named
    cases eq_name other named
    exact notPart

end Save

namespace StrangeTitle

open Desk (plainHost)

/--
An entry that seems to want to be saved elsewhere,
in a directory that has another download already.
-/
def save : Save Desk where
  settings := { directory := .text "torrents", urlFile := .text "urls.txt" }
  entry :=
    { id := some 10, title := some " ../../etc/passwd ",
      torrentUrl := "https://tracker.example/10" }
  world :=
    { files :=
        { home := ["home"]
          directories := [["home", "torrents"]]
          files := [(["home", "torrents", "other.torrent"], "kept")] }
      network := { answers := [("https://tracker.example/10", [.reply 200 "payload" true])] } }

theorem downloadsInto : save.DownloadsInto ["home", "torrents"] := by
  refine ⟨"torrents", rfl, ["home"], ["torrents"], ?_, ?_⟩
  · exact Outcome.eq_ok_of_toOption (by decide +kernel)
  · rfl

theorem listsOutside : save.ListsOutside ["home", "torrents"] := by
  rintro file ⟨path, isUrls | isMagnets, _, written⟩
  · cases isUrls
    have written' : save.world.files.writable "urls.txt" = .ok ["home", "urls.txt"] :=
      Outcome.eq_ok_of_toOption (by decide +kernel)
    cases written.symm.trans written'
    decide
  · cases isMagnets

/-- The save stays in its directory, leaves the other download there and brings its own. -/
theorem download_is_atomic_and_confined_of_save :
    save.settings.directory.isTruthy = true ∧
    (save.result plainHost).2.ledger.ids = [10] ∧
    (save.result plainHost).2.files.text?
    ["home", "torrents", ".._.._etc_passwd.torrent"] = some "payload" ∧
    (save.result plainHost).2.files.text? ["home", "torrents", "other.torrent"] = some "kept" := by
  have entered : (save.result plainHost).2.ledger.ids = [10] := by
    decide +kernel
  have named : save.entry.downloadName = .ok ".._.._etc_passwd.torrent" :=
    Outcome.eq_ok_of_toOption (by decide +kernel)
  rcases Save.download_is_atomic_and_confined "watcher" "torrentsieve.yaml"
    (fun _ => none) save rfl with
    ⟨_, name, _, eq_name, confined, recorded, _⟩
  cases eq_name _ named
  have changed : (save.result plainHost).2.ledger ≠ save.world.ledger := by
    intro same
    rw [same] at entered
    cases entered
  have whole : (save.world.network.request save.entry.torrentUrl).1.body? =
      some "payload" := by decide +kernel
  refine ⟨rfl, entered, ?_, ?_⟩
  · rcases recorded changed with ⟨place, body, into, answered, delivered, _⟩
    cases into.unique downloadsInto
    cases answered.symm.trans whole
    exact delivered
  · exact (confined _ downloadsInto listsOutside).1 _ (by decide) (by decide) (by decide)

end StrangeTitle

end ReleaseWatch
