import ReleaseWatch.Proofs.Entry.Address
import ReleaseWatch.Proofs.Saving.Payload
import ReleaseWatch.Proofs.Text.Lines

/-!
# The lists as files

A list that is kept in a file has, behind what was there, the address of each save that took its
entry for a new one, in the order of the saves and with a line break behind each. Nothing else
changes the file unless a download is put in its place. So it is read as it was written as long
as no address has a line break. Nothing keeps a break out of an address, and one that has a
break is read as several.
-/

namespace ReleaseWatch

/-- The line of an entry in a list of addresses; its other one is `Entry.magnet?`. -/
def Entry.url? (entry : Entry) : Option String :=
  some entry.torrentUrl

namespace FileTree

variable {tree other : FileTree} {path : String} {file : Path}

/-- The text of a file, and an empty one if there is no file. -/
def content (tree : FileTree) (file : Path) : String :=
  (tree.text? file).getD ""

theorem ChangesOnly.content_eq {places : Path → Prop} (changes : tree.ChangesOnly places other)
    (outside : ¬places file) :
    other.content file = tree.content file := by
  unfold content
  rw [changes.text?_eq file outside]

theorem path_ne_empty_of_writable (written : tree.writable path = .ok file) : path ≠ "" := by
  rcases landing_eq_ok_iff.mp (writable_eq_ok_iff.mp written).1 with
    ⟨start, names, last, before, place, routed, _⟩
  exact (route_eq_ok_iff.mp routed).2.1

theorem isTruthy_of_writable (written : tree.writable path = .ok file) :
    (Value.text path).isTruthy = true := by
  simpa [Value.isTruthy, Scalar.isTruthy] using path_ne_empty_of_writable written

end FileTree

namespace Desk

/-- Adding to a list in a file puts the line behind what is there, if there is a line. -/
theorem exists_addIfSet (holder settingsPath : String) (document? : String → Option Value)
    {desk : Desk} {path : String}
    {file : Path} (isFile : path ≠ "-") (written : desk.files.writable path = .ok file)
    (line? : Option String) :
    ∃ files, perform
      (SaveSettings.addIfSet (host holder settingsPath document?) (.text path) line?) desk =
        (.ok (), { desk with files }) ∧
      desk.files.ChangesOnly (· = file) files ∧
      files.content file = desk.files.content file ++ framed line?.toList := by
  unfold SaveSettings.addIfSet
  rw [if_pos (FileTree.isTruthy_of_writable written)]
  cases line? with
  | none => exact ⟨desk.files, rfl, .refl _ _, String.append_empty.symm⟩
  | some line =>
      have appended : desk.files.append path (line ++ "\n") =
          .ok (desk.files.put file (desk.files.content file ++ (line ++ "\n"))) :=
        FileTree.append_eq_ok_iff.mpr ⟨file, written, rfl⟩
      have isList : Value.text path ≠ .text "-" := by
        intro same
        cases same
        exact isFile rfl
      refine ⟨desk.files.put file (desk.files.content file ++ (line ++ "\n")), ?_, ?_, ?_⟩
      · apply SaveSettings.perform_addLine_eq_ok_iff.mpr
        refine .appended isList rfl ?_
        rw [appendFile_eq, perform_changeFiles, appended]
      · apply FileTree.ChangesOnly.put
        rfl
      · rw [FileTree.content, FileTree.text?_put, if_pos rfl]
        simp [framed]

end Desk

namespace Save

variable {holder settingsPath : String} {document? : String → Option Value} {save : Save Desk}
    {saves : List (Save Desk)}
  {begun after listed : Desk} {urlPath magnetPath : String} {urls magnets file : Path}

/-- A save puts a download at a place, for as long as it is incomplete or for good. -/
def DownloadsTo (save : Save Desk) (file : Path) : Prop :=
  ∃ place name, save.DownloadsInto place ∧ save.entry.downloadName = .ok name ∧
    (file = place ++ [name] ∨ file = place ++ [name ++ ".part"])

theorem changesOnly_downloadIfSet {outcome : Except Failure Unit} {fetched : Desk}
    (same : save.world.files.SameDirectories listed.files)
    (ran : (save.settings.downloadIfSet (Desk.host holder settingsPath document?) save.entry).run
      listed = (outcome, fetched)) : listed.files.ChangesOnly save.DownloadsTo fetched.files := by
  cases outcome with
  | error failure =>
      -- the failing download is one of a save that begins where the lists end
      have fails :=
        @changesOnly_of_download_fails holder settingsPath document?
          { save with world := listed } _ listed fetched failure
          (fun _ beside => beside) (.refl _ _) ran
      apply fails.mono
      rintro file ⟨place, name, into, named, rfl⟩
      exact ⟨place, name, into.of_sameDirectories same.symm, named, Or.inr rfl⟩
  | ok _ =>
      have fetches := SaveSettings.run_downloadIfSet_eq_ok_iff.mp ran
      unfold SaveSettings.FetchesIfSet at fetches
      split at fetches
      · next isSet =>
          rcases exists_of_fetches isSet fetches with
            ⟨folder, place, name, body, isFolder, leads, named, _, changes, _⟩
          apply changes.mono
          intro file isDownload
          exact ⟨place, name, ⟨folder, isFolder, leads.of_sameDirectories same.symm⟩,
            named, isDownload⟩
      · rw [fetches]
        exact .refl _ _

/-- Behind its lists, a save changes files by its download only. -/
theorem changesOnly_of_isNew
    (isNew : save.IsNew (Desk.host holder settingsPath document?) save.world)
    (same : save.world.files.SameDirectories listed.files)
    (lines : perform (save.settings.addLines (Desk.host holder settingsPath document?) save.entry)
      save.world = (.ok (), listed)) :
    listed.files.ChangesOnly save.DownloadsTo
      (save.result (Desk.host holder settingsPath document?)).2.files := by
  rw [result_of_isNew isNew]
  unfold SaveSettings.saveNew
  rw [perform_bind_of_ok lines, perform_bind, perform_lift]
  rcases ran :
    (save.settings.downloadIfSet (Desk.host holder settingsPath document?) save.entry).run
      listed with
    ⟨outcome, fetched⟩
  have changes := changesOnly_downloadIfSet same ran
  cases outcome with
  | ok _ =>
      change listed.files.ChangesOnly save.DownloadsTo
        (perform (SaveSettings.concludes (Desk.host holder settingsPath document?) save.entry)
          fetched).2.files
      rw [Desk.files_concludes]
      exact changes
  | error failure =>
      dsimp only
      split <;> exact changes

open Classical in
/-- The line that a save has for a list: that of its entry, if the save takes it for a new one. -/
noncomputable def newLine? {World : Type} (host : Host (StateM World))
    (line? : Entry → Option String) (save : Save World) : Option String :=
  if ∃ asked, save.IsNew host asked then line? save.entry else none

/-- The lines that saves have for a list, in their order. -/
noncomputable def newLines {World : Type} (host : Host (StateM World))
    (line? : Entry → Option String) (saves : List (Save World)) : List String :=
  saves.filterMap (newLine? host line?)

theorem newLines_cons {World : Type} (host : Host (StateM World)) (line? : Entry → Option String)
    (save : Save World) (later : List (Save World)) :
    newLines host line? (save :: later) =
      (save.newLine? host line?).toList ++ newLines host line? later := by
  unfold newLines
  rw [List.filterMap_cons]
  cases save.newLine? host line? <;> rfl

theorem exists_of_mem_newLines {World : Type} {host : Host (StateM World)}
    {line? : Entry → Option String}
    {saves : List (Save World)} {line : String} (line_mem : line ∈ newLines host line? saves) :
    ∃ save ∈ saves, line? save.entry = some line := by
  rcases List.mem_filterMap.mp line_mem with ⟨save, save_mem, isLine⟩
  unfold newLine? at isLine
  split at isLine
  · exact ⟨save, save_mem, isLine⟩
  · cases isLine

/-- A save has its lists in two files, and puts no download in their places. -/
structure KeepsLists (save : Save Desk) (urlPath magnetPath : String) (urls magnets : Path) :
    Prop where
  urlFile : save.settings.urlFile = .text urlPath
  magnetFile : save.settings.magnetFile = .text magnetPath
  notReplaced : ¬save.DownloadsTo urls ∧ ¬save.DownloadsTo magnets

/-- The two files of lists can be written, and they are not one. -/
structure ListsApart (tree : FileTree) (urlPath magnetPath : String) (urls magnets : Path) :
    Prop where
  areFiles : urlPath ≠ "-" ∧ magnetPath ≠ "-"
  urls_written : tree.writable urlPath = .ok urls
  magnets_written : tree.writable magnetPath = .ok magnets
  apart : urls ≠ magnets

theorem ListsApart.of_sameDirectories {tree other : FileTree}
    (lists : ListsApart tree urlPath magnetPath urls magnets)
    (same : tree.SameDirectories other) : ListsApart other urlPath magnetPath urls magnets where
  areFiles := lists.areFiles
  urls_written := FileTree.writable_eq_ok_of_sameDirectories same lists.urls_written
  magnets_written := FileTree.writable_eq_ok_of_sameDirectories same lists.magnets_written
  apart := lists.apart

/-- A save that is not new leaves all files as they were. -/
theorem files_result_of_not_isNew
    (notNew : ∀ asked, ¬save.IsNew (Desk.host holder settingsPath document?) asked) :
    (save.result (Desk.host holder settingsPath document?)).2.files = save.world.files := by
  have asked_eq : ∀ {outcome asked},
      perform (SaveSettings.isSaved (Desk.host holder settingsPath document?) save.entry)
      save.world = (outcome, asked) → asked = save.world := by
    intro outcome asked looked
    have world_eq := Desk.perform_isSaved holder settingsPath document? save.entry save.world
    rw [looked] at world_eq
    exact world_eq
  rcases save.cases_of_save (Desk.host holder settingsPath document?) with
    disabled | ⟨enabled, asked, ⟨failure, unanswered⟩ | known | isNew⟩
  · rw [result_of_not_enabled disabled]
    rfl
  · rw [result_of_unanswered enabled unanswered, asked_eq unanswered]
  · rw [result_of_saved enabled known, asked_eq known]
    rfl
  · exact absurd isNew (notNew asked)

/-- The lines of a save come behind what is in its two files. -/
theorem exists_addLines (holder settingsPath : String) (document? : String → Option Value)
    (lists : ListsApart save.world.files urlPath magnetPath urls magnets)
    (keeps : save.KeepsLists urlPath magnetPath urls magnets) :
    ∃ listed, perform
      (save.settings.addLines (Desk.host holder settingsPath document?) save.entry) save.world =
        (.ok (), listed) ∧
      save.world.files.SameDirectories listed.files ∧
      listed.files.content urls = save.world.files.content urls ++ framed save.entry.url?.toList ∧
      listed.files.content magnets =
        save.world.files.content magnets ++ framed save.entry.magnet?.toList := by
  rcases Desk.exists_addIfSet holder settingsPath document? lists.areFiles.1 lists.urls_written
    save.entry.url? with ⟨files, first, firstOnly, firstText⟩
  have lists' : ListsApart ({ save.world with files } : Desk).files urlPath magnetPath
      urls magnets := lists.of_sameDirectories firstOnly.sameDirectories
  rcases Desk.exists_addIfSet holder settingsPath document? lists.areFiles.2 lists'.magnets_written
    save.entry.magnet? with
    ⟨files', second, secondOnly, secondText⟩
  dsimp only at second secondOnly secondText
  refine ⟨{ save.world with files := files' }, ?_,
    firstOnly.sameDirectories.trans secondOnly.sameDirectories, ?_, ?_⟩
  · rw [SaveSettings.addLines_eq, keeps.urlFile, keeps.magnetFile, ← Entry.url?,
      perform_bind_of_ok first]
    exact second
  · rw [secondOnly.content_eq lists.apart, firstText]
  · rw [secondText, firstOnly.content_eq lists.apart.symm]

/-- What a save does to the two files of its lists. -/
theorem lists_result (holder settingsPath : String) (document? : String → Option Value)
    (lists : ListsApart save.world.files urlPath magnetPath urls magnets)
    (keeps : save.KeepsLists urlPath magnetPath urls magnets) :
    let host := Desk.host holder settingsPath document?
    let after := (save.result host).2
    save.world.files.SameDirectories after.files ∧
    after.files.content urls = save.world.files.content urls ++
      framed (save.newLine? host Entry.url?).toList ∧
    after.files.content magnets =
      save.world.files.content magnets ++ framed (save.newLine? host Entry.magnet?).toList := by
  intro host after
  unfold newLine?
  by_cases isNew : ∃ asked, save.IsNew host asked
  · rw [if_pos isNew, if_pos isNew]
    rcases isNew with ⟨asked, isNew⟩
    cases isNew.eq_world
    rcases exists_addLines holder settingsPath document? lists keeps with
      ⟨listed, lines, same, urlText, magnetText⟩
    have changes := changesOnly_of_isNew isNew same lines
    refine ⟨same.trans changes.sameDirectories, ?_, ?_⟩
    · rw [changes.content_eq keeps.notReplaced.1, urlText]
    · rw [changes.content_eq keeps.notReplaced.2, magnetText]
  · have kept : after.files = save.world.files := files_result_of_not_isNew (not_exists.mp isNew)
    rw [if_neg isNew, if_neg isNew, kept]
    exact ⟨.refl _, String.append_empty.symm, String.append_empty.symm⟩

theorem Run.lists (run : Run (Desk.host holder settingsPath document?) begun saves after)
    (lists : ListsApart begun.files urlPath magnetPath urls magnets)
    (keeps : ∀ save ∈ saves, save.KeepsLists urlPath magnetPath urls magnets) :
    let host := Desk.host holder settingsPath document?
    after.files.content urls = begun.files.content urls ++
      framed (newLines host Entry.url? saves) ∧
    after.files.content magnets =
      begun.files.content magnets ++ framed (newLines host Entry.magnet? saves) := by
  intro host
  induction run with
  | nil world => exact ⟨String.append_empty.symm, String.append_empty.symm⟩
  | cons rest ih =>
      rename_i save later after
      rcases List.forall_mem_cons.mp keeps with ⟨first, others⟩
      rcases lists_result holder settingsPath document? lists first with
        ⟨same, urlText, magnetText⟩
      rcases ih (lists.of_sameDirectories same) others with ⟨urlTexts, magnetTexts⟩
      rw [urlTexts, urlText, magnetTexts, magnetText, newLines_cons, newLines_cons, framed_append,
        framed_append]
      exact ⟨String.append_assoc, String.append_assoc⟩

/--
Saves after each other that have their lists in two files, both empty to begin with. Each list is
read as the pieces of the addresses of those saves that take their entry for a new one, and as the
addresses themselves exactly if none of these has a line break. So it is whenever the entries come
from items without line breaks.
-/
theorem lists_read_back (holder settingsPath : String) (document? : String → Option Value)
    (run : Run (Desk.host holder settingsPath document?) begun saves after)
    (lists : ListsApart begun.files urlPath magnetPath urls magnets)
    (keeps : ∀ save ∈ saves, save.KeepsLists urlPath magnetPath urls magnets)
    (noUrls : begun.files.content urls = "") (noMagnets : begun.files.content magnets = "") :
    let host := Desk.host holder settingsPath document?
    let addedUrls := newLines host Entry.url? saves
    let addedMagnets := newLines host Entry.magnet? saves
    pieces (after.files.content urls) = addedUrls.flatMap pieces ++ [""] ∧
    pieces (after.files.content magnets) = addedMagnets.flatMap pieces ++ [""] ∧
    (pieces (after.files.content urls) = addedUrls ++ [""] ↔
      ∀ url ∈ addedUrls, '\n' ∉ url.toList) ∧
    (pieces (after.files.content magnets) = addedMagnets ++ [""] ↔
      ∀ uri ∈ addedMagnets, '\n' ∉ uri.toList) ∧
    ((∀ save ∈ saves, ∃ item : Item, item.extract = .ok save.entry ∧ item.HasNoBreaks) →
      pieces (after.files.content urls) = addedUrls ++ [""] ∧
      pieces (after.files.content magnets) = addedMagnets ++ [""]) := by
  intro host addedUrls addedMagnets
  rcases run.lists lists keeps with ⟨urlText, magnetText⟩
  rw [noUrls, String.empty_append] at urlText
  rw [noMagnets, String.empty_append] at magnetText
  rw [urlText, magnetText, pieces_framed_eq_iff, pieces_framed_eq_iff]
  refine ⟨pieces_framed _, pieces_framed _, Iff.rfl, Iff.rfl, ?_⟩
  intro unbroken
  constructor
  · intro url url_mem
    rcases exists_of_mem_newLines url_mem with ⟨save, save_mem, isUrl⟩
    rcases unbroken save save_mem with ⟨item, extracted, noBreaks⟩
    cases isUrl
    exact noBreaks.torrentUrl extracted
  · intro uri uri_mem
    rcases exists_of_mem_newLines uri_mem with ⟨save, save_mem, isMagnet⟩
    rcases unbroken save save_mem with ⟨item, extracted, noBreaks⟩
    exact noBreaks.magnetUri extracted (Option.filter_eq_some_iff.mp isMagnet).1

end Save

namespace OneItem

open Desk (plainHost)

/-- An item with an address and a magnet address in its description. -/
def item (url uri : String) : Item where
  title := some "Show - 01"
  guid := some "id=10"
  description :=
    some ("Torrent: <a href=\x22" ++ url ++ "\x22>here</a>, <a href=\x22" ++ uri ++
      "\x22>magnet</a>")

/-- A save of the entry of an item, with a file for each of the two lists. -/
def save (url uri : String) : Save Desk where
  settings := { urlFile := .text "urls.txt", magnetFile := .text "magnets.txt" }
  entry := (item url uri).toEntry (some 10)
  world := {}

theorem extract_item (url uri : String) : (item url uri).extract = .ok (save url uri).entry := by
  have numbered : guidNumber (unwrap "id=10") = .ok (some 10) :=
    Outcome.eq_ok_of_toOption (by decide +kernel)
  have plain : (item url uri).plainGuid = unwrap "id=10" := rfl
  rw [Item.extract, plain, numbered]
  rfl

theorem run_save (url uri : String) :
    Save.Run plainHost {} [save url uri] ((save url uri).result plainHost).2 :=
  .cons (.nil ((save url uri).result plainHost).2)

theorem listsApart :
    Save.ListsApart ({} : Desk).files "urls.txt" "magnets.txt" ["urls.txt"] ["magnets.txt"] where
  areFiles := by decide
  urls_written := Outcome.eq_ok_of_toOption (by decide +kernel)
  magnets_written := Outcome.eq_ok_of_toOption (by decide +kernel)
  apart := by decide

theorem keepsLists (url uri : String) :
    ∀ other ∈ [save url uri], other.KeepsLists "urls.txt" "magnets.txt" ["urls.txt"]
      ["magnets.txt"] := by
  have noDownload : ∀ file, ¬(save url uri).DownloadsTo file := by
    rintro file ⟨place, name, ⟨folder, isFolder, _⟩, _⟩
    cases isFolder
  refine List.forall_mem_cons.mpr ⟨?_, List.forall_mem_nil _⟩
  exact ⟨rfl, rfl, noDownload _, noDownload _⟩

/-- Addresses without line breaks are one line each. -/
theorem lists_read_back_of_oneItem :
    let whole := save "https://tracker.example/10" "magnet:?xt=10"
    let after := (whole.result plainHost).2
    Save.Run plainHost {} [whole] after ∧
    Save.ListsApart ({} : Desk).files "urls.txt" "magnets.txt" ["urls.txt"] ["magnets.txt"] ∧
    (∀ other ∈ [whole],
      other.KeepsLists "urls.txt" "magnets.txt" ["urls.txt"] ["magnets.txt"]) ∧
    ({} : Desk).files.content ["urls.txt"] = "" ∧
    ({} : Desk).files.content ["magnets.txt"] = "" ∧
    Save.newLines plainHost Entry.url? [whole] = ["https://tracker.example/10"] ∧
    Save.newLines plainHost Entry.magnet? [whole] = ["magnet:?xt=10"] := by
  intro whole after
  have readBack :=
    Save.lists_read_back "watcher" "torrentsieve.yaml" (fun _ => none) (run_save _ _) listsApart
    (keepsLists "https://tracker.example/10" "magnet:?xt=10") rfl rfl
  have unbroken : ∀ other ∈ [whole], ∃ item : Item, item.extract = .ok other.entry ∧
      item.HasNoBreaks := by
    refine List.forall_mem_cons.mpr ⟨⟨_, extract_item _ _, ?_⟩, List.forall_mem_nil _⟩
    exact ⟨by decide +kernel, by decide +kernel⟩
  rcases readBack.2.2.2.2 unbroken with ⟨urls, magnets⟩
  have urlPieces : pieces (after.files.content ["urls.txt"]) =
      ["https://tracker.example/10", ""] := by decide +kernel
  have magnetPieces : pieces (after.files.content ["magnets.txt"]) =
      ["magnet:?xt=10", ""] := by decide +kernel
  exact ⟨run_save _ _, listsApart, keepsLists _ _, rfl, rfl,
    List.append_cancel_right (urls.symm.trans urlPieces),
    List.append_cancel_right (magnets.symm.trans magnetPieces)⟩

/-- One save adds one line at most. -/
theorem two_lines_ne (line? : Entry → Option String) (whole : Save Desk) (first second : String) :
    [first, second, ""] ≠ Save.newLines plainHost line? [whole] ++ [""] := by
  intro same
  have oneLine : (Save.newLines plainHost line? [whole]).length ≤ 1 :=
    List.length_filterMap_le _ _
  have lengths := congrArg List.length same
  simp only [List.length_append, List.length_cons, List.length_nil] at lengths
  omega

/-- An address with a line break is two lines of the list, and a magnet address too. -/
theorem reads_two_lines_of_one_address :
    let broken := save "https://tracker.example/10\n&name=show" "magnet:?xt=10\n&dn=show"
    let after := (broken.result plainHost).2
    (item "https://tracker.example/10\n&name=show" "magnet:?xt=10\n&dn=show").extract =
      .ok broken.entry ∧
    Save.Run plainHost {} [broken] after ∧
    Save.ListsApart ({} : Desk).files "urls.txt" "magnets.txt" ["urls.txt"] ["magnets.txt"] ∧
    (∀ other ∈ [broken],
      other.KeepsLists "urls.txt" "magnets.txt" ["urls.txt"] ["magnets.txt"]) ∧
    ({} : Desk).files.content ["urls.txt"] = "" ∧
    ({} : Desk).files.content ["magnets.txt"] = "" ∧
    pieces (after.files.content ["urls.txt"]) = ["https://tracker.example/10", "&name=show", ""] ∧
    pieces (after.files.content ["urls.txt"]) ≠
      Save.newLines plainHost Entry.url? [broken] ++ [""] ∧
    pieces (after.files.content ["magnets.txt"]) ≠
      Save.newLines plainHost Entry.magnet? [broken] ++ [""] := by
  intro broken after
  have urlPieces : pieces (after.files.content ["urls.txt"]) =
      ["https://tracker.example/10", "&name=show", ""] := by
    decide +kernel
  have magnetPieces : pieces (after.files.content ["magnets.txt"]) =
      ["magnet:?xt=10", "&dn=show", ""] := by
    decide +kernel
  refine ⟨extract_item _ _, run_save _ _, listsApart, keepsLists _ _, rfl, rfl,
    urlPieces, ?_, ?_⟩
  · rw [urlPieces]
    exact two_lines_ne _ _ _ _
  · rw [magnetPieces]
    exact two_lines_ne _ _ _ _

end OneItem

end ReleaseWatch
