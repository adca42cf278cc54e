import Mathlib.Data.List.Nodup
import ReleaseWatch.Proofs.Saving.Confinement

/-!
# What remains of the downloads

The ledger tells entries apart by their numbers and the directory by the names of their downloads,
which are made of the titles. So the download of an entry stays there until another one of the
same name comes, and no other save touches it. Two entries of one title have one file between
them, that of the later one.
-/

namespace ReleaseWatch

namespace Save

/-- Saves right after each other, from the world before the first to that after the last. -/
inductive Run {World : Type} (host : Host (StateM World)) :
    World → List (Save World) → World → Prop
  | nil (world : World) : Run host world [] world
  | cons {save : Save World} {later : List (Save World)} {after : World}
      (rest : Run host (save.result host).2 later after) : Run host save.world (save :: later) after

namespace Run

section World

variable {World : Type} {host : Host (StateM World)} {begun after : World}
    {saves : List (Save World)}

theorem history (run : Run host begun saves after) (ledger : World → Ledger) :
    History host ledger (ledger begun) saves (ledger after) := by
  induction run with
  | nil world => exact .nil (ledger world)
  | cons rest ih => exact .cons ih

theorem split {earlier later : List (Save World)} {save : Save World}
    (run : Run host begun (earlier ++ save :: later) after) :
    Run host begun earlier save.world ∧ Run host (save.result host).2 later after := by
  induction earlier generalizing begun with
  | nil =>
      cases run with
      | cons rest => exact ⟨.nil save.world, rest⟩
  | cons first others ih =>
      cases run with
      | cons rest =>
          rcases ih rest with ⟨before, behind⟩
          exact ⟨.cons before, behind⟩

end World

variable {holder settingsPath : String} {document? : String → Option Value}
    {settings : SaveSettings}
  {begun after : Desk} {saves : List (Save Desk)} {place : Path} {name : String}

theorem sameDirectories (run : Run (Desk.host holder settingsPath document?) begun saves after)
    (fixed : ∀ save ∈ saves, save.settings = settings)
    (isSet : settings.directory.isTruthy = true) :
    begun.files.SameDirectories after.files := by
  induction run with
  | nil world => exact .refl world.files
  | cons rest ih =>
      rcases List.forall_mem_cons.mp fixed with ⟨rfl, others⟩
      exact (sameDirectories_result isSet).trans (ih others)

end Run

variable {holder settingsPath : String} {document? : String → Option Value}
    {settings : SaveSettings}
  {begun after : Desk} {saves : List (Save Desk)} {save : Save Desk} {place : Path} {name : String}

theorem text?_eq_of_not_replaced (isSet : save.settings.directory.isTruthy = true)
    (into : save.DownloadsInto place)
    (isName : IsDownloadName name) (noList : ¬save.ListsAt (place ++ [name]))
    (notReplaced : save.entry.downloadName = .ok name →
      ¬save.IsComplete (Desk.host holder settingsPath document?)) :
    (save.result (Desk.host holder settingsPath document?)).2.files.text? (place ++ [name]) =
      save.world.files.text? (place ++ [name]) := by
  have notPart : ∀ other, place ++ [name] ≠ place ++ [other ++ ".part"] := by
    intro other same
    exact isName.ne_part other (List.singleton_inj.mp (List.append_cancel_left same))
  by_cases complete : save.IsComplete (Desk.host holder settingsPath document?)
  · rcases exists_delivers_of_isComplete isSet complete with ⟨place', other, body, delivers⟩
    cases into.unique delivers.downloadsInto
    apply delivers.changes.text?_eq
    rintro (isList | isFinal | isPart)
    · exact noList isList
    · cases List.singleton_inj.mp (List.append_cancel_left isFinal)
      exact notReplaced delivers.named complete
    · exact notPart other isPart
  · apply (changesOnly_of_not_isComplete complete).text?_eq
    rintro (isList | ⟨place', other, into', _, isPart⟩)
    · exact noList isList
    · cases into.unique into'
      exact notPart other isPart

theorem Run.text?_eq (run : Run (Desk.host holder settingsPath document?) begun saves after)
    (fixed : ∀ save ∈ saves, save.settings = settings)
    (isSet : settings.directory.isTruthy = true)
    (into : settings.DownloadsInto begun.files place) (isName : IsDownloadName name)
    (noList : ¬settings.ListsAt begun.files (place ++ [name]))
    (notReplaced : ∀ save ∈ saves, save.entry.downloadName = .ok name →
      ¬save.IsComplete (Desk.host holder settingsPath document?)) :
    after.files.text? (place ++ [name]) = begun.files.text? (place ++ [name]) := by
  induction run with
  | nil world => rfl
  | cons rest ih =>
      rename_i save later after
      rcases List.forall_mem_cons.mp fixed with ⟨rfl, others⟩
      rcases List.forall_mem_cons.mp notReplaced with ⟨first, others'⟩
      have same : save.world.files.SameDirectories
          (save.result (Desk.host holder settingsPath document?)).2.files :=
        sameDirectories_result isSet
      rw [ih others (into.of_sameDirectories same)
        (fun isList => noList (isList.of_sameDirectories same.symm)) others']
      exact text?_eq_of_not_replaced isSet into isName noList first

/--
Saves after each other by the same settings, which download into a directory that exists, of
entries with different numbers. Whatever number comes into the ledger, its own download is
in the directory after all saves, if no later entry was downloaded under the same name and
no list is kept there.
-/
theorem payload_remains (holder settingsPath : String) (document? : String → Option Value)
    {earlier later : List (Save Desk)} {id : Int}
    (run : Run (Desk.host holder settingsPath document?) begun (earlier ++ save :: later) after)
    (fixed : ∀ other ∈ earlier ++ save :: later, other.settings = settings)
    (isSet : settings.directory.isTruthy = true) (into : settings.DownloadsInto begun.files place)
    (numbered : ∀ other ∈ earlier ++ save :: later, other.entry.id ≠ none)
    (distinct : ((earlier ++ save :: later).map fun other => other.entry.id).Nodup)
    (id_eq : save.entry.id = some id)
    (unknown : id ∉ begun.ledger.ids) (recorded : id ∈ after.ledger.ids)
    (noList : ∀ name, save.entry.downloadName = .ok name →
      ¬settings.ListsAt begun.files (place ++ [name]))
    (notReplaced : ∀ other ∈ later, other.entry.downloadName = save.entry.downloadName →
      ¬other.IsComplete (Desk.host holder settingsPath document?)) :
    ∃ name body, save.entry.downloadName = .ok name ∧
      (save.world.network.request save.entry.torrentUrl).1.body? = some body ∧
      after.files.text? (place ++ [name]) = some body := by
  have save_mem : save ∈ earlier ++ save :: later :=
    List.mem_append_right earlier List.mem_cons_self
  have complete : save.IsComplete (Desk.host holder settingsPath document?) := by
    rcases (run.history Desk.ledger).mem_ids_cases (Desk.hasLedger holder settingsPath document?)
      numbered recorded with known | ⟨other, other_mem, other_id, complete⟩
    · exact absurd known unknown
    · rwa [← List.inj_on_of_nodup_map distinct other_mem save_mem (other_id.trans id_eq.symm)]
  rcases run.split with ⟨before, behind⟩
  have fixedBefore : ∀ other ∈ earlier, other.settings = settings :=
    fun other other_mem => fixed other (List.mem_append_left _ other_mem)
  have fixedBehind : ∀ other ∈ later, other.settings = settings :=
    fun other other_mem => fixed other (List.mem_append_right _ (List.mem_cons_of_mem _ other_mem))
  have same := before.sameDirectories fixedBefore isSet
  cases fixed save save_mem
  rcases exists_delivers_of_isComplete isSet complete with ⟨place', name, body, delivers⟩
  cases (into.of_sameDirectories same).unique delivers.downloadsInto
  refine ⟨name, body, delivers.named, delivers.whole, ?_⟩
  have sameBehind := same.trans delivers.changes.sameDirectories
  rw [← delivers.delivered]
  apply behind.text?_eq fixedBehind isSet (into.of_sameDirectories sameBehind)
    (Entry.isDownloadName_of_downloadName delivers.named)
  · exact fun isList => noList name delivers.named (isList.of_sameDirectories sameBehind.symm)
  · intro other other_mem named
    exact notReplaced other other_mem (named.trans delivers.named.symm)

end Save

namespace SharedTitle

open Desk (plainHost)

def settings : SaveSettings :=
  { directory := .text "torrents" }

def entry (id : Int) (title url : String) : Entry :=
  { id := some id, title := some title, torrentUrl := url }

/-- A desk with a directory, on which every address has its own answer. -/
def begun : Desk where
  files := { directories := [["torrents"]] }
  network :=
    { answers :=
        [("https://tracker.example/10", [.reply 200 "ten" true]),
          ("https://tracker.example/11", [.reply 200 "eleven" true])] }

def first : Save Desk where
  settings
  entry := entry 10 "Show - 01" "https://tracker.example/10"
  world := begun

def apart : Save Desk where
  settings
  entry := entry 11 "Show - 02" "https://tracker.example/11"
  world := (first.result plainHost).2

/-- The save of an entry with the title of the first one. -/
def replacing : Save Desk :=
  { apart with entry := entry 11 "Show - 01" "https://tracker.example/11" }

theorem run_apart : Save.Run plainHost begun [first, apart] (apart.result plainHost).2 :=
  .cons (.cons (.nil (apart.result plainHost).2))

theorem run_replacing :
    Save.Run plainHost begun [first, replacing] (replacing.result plainHost).2 :=
  .cons (.cons (.nil (replacing.result plainHost).2))

theorem downloadsInto : settings.DownloadsInto begun.files ["torrents"] :=
  ⟨"torrents", rfl, [], ["torrents"], Outcome.eq_ok_of_toOption (by decide +kernel), rfl⟩

theorem payload_remains_of_apart :
    Save.Run plainHost begun [first, apart] (apart.result plainHost).2 ∧
    (apart.result plainHost).2.ledger.ids = [10, 11] ∧
    (apart.result plainHost).2.files.text? ["torrents", "Show - 01.torrent"] = some "ten" := by
  have entered : (apart.result plainHost).2.ledger.ids = [10, 11] := by decide +kernel
  have firstNamed : first.entry.downloadName = .ok "Show - 01.torrent" :=
    Outcome.eq_ok_of_toOption (by decide +kernel)
  have apartNamed : apart.entry.downloadName = .ok "Show - 02.torrent" :=
    Outcome.eq_ok_of_toOption (by decide +kernel)
  have noList : ∀ file, ¬settings.ListsAt begun.files file := by
    rintro file ⟨path, isUrls | isMagnets, _, _⟩
    · cases isUrls
    · cases isMagnets
  have notReplaced : ∀ other ∈ [apart], other.entry.downloadName = first.entry.downloadName →
      ¬other.IsComplete plainHost := by
    refine List.forall_mem_cons.mpr ⟨?_, List.forall_mem_nil _⟩
    intro sameName
    rw [firstNamed, apartNamed] at sameName
    exact absurd (Except.ok.inj sameName) (by decide)
  have fixed : ∀ save ∈ [first, apart], save.settings = settings := by
    refine List.forall_mem_cons.mpr ⟨rfl, ?_⟩
    exact List.forall_mem_cons.mpr ⟨rfl, List.forall_mem_nil _⟩
  have numbered : ∀ save ∈ [first, apart], save.entry.id ≠ none := by
    refine List.forall_mem_cons.mpr ⟨Option.some_ne_none 10, ?_⟩
    exact List.forall_mem_cons.mpr ⟨Option.some_ne_none 11, List.forall_mem_nil _⟩
  have whole : (first.world.network.request first.entry.torrentUrl).1.body? =
      some "ten" := by decide +kernel
  have isEntered : 10 ∈ (apart.result plainHost).2.ledger.ids := by
    rw [entered]
    decide
  refine ⟨run_apart, entered, ?_⟩
  rcases @Save.payload_remains settings begun (apart.result plainHost).2 first
    ["torrents"] "watcher" "torrentsieve.yaml"
    (fun _ => none) [] [apart] 10 run_apart fixed rfl downloadsInto numbered (by decide) rfl
      (by decide) isEntered
    (fun name _ => noList _) notReplaced with ⟨name, body, named, answered, remains⟩
  cases firstNamed.symm.trans named
  cases whole.symm.trans answered
  exact remains

/-- Both numbers are in the ledger, but no file has the payload of the first one any more. -/
theorem loses_payload_of_title :
    Save.Run plainHost begun [first, replacing] (replacing.result plainHost).2 ∧
    (∀ save ∈ [first, replacing], save.settings = settings) ∧
    settings.DownloadsInto begun.files ["torrents"] ∧
    ([first, replacing].map fun save => save.entry.id) = [some 10, some 11] ∧
    (replacing.result plainHost).2.ledger.ids = [10, 11] ∧
    (first.world.network.request first.entry.torrentUrl).1.body? = some "ten" ∧
    ¬∃ file, (replacing.result plainHost).2.files.text? file = some "ten" := by
  have files_eq : (replacing.result plainHost).2.files.files =
      [(["torrents", "Show - 01.torrent"], "eleven")] := by
    decide +kernel
  refine ⟨run_replacing, ?_, downloadsInto, rfl, by decide +kernel, by decide +kernel, ?_⟩
  · refine List.forall_mem_cons.mpr ⟨rfl, ?_⟩
    exact List.forall_mem_cons.mpr ⟨rfl, List.forall_mem_nil _⟩
  · rintro ⟨file, found⟩
    unfold FileTree.text? at found
    rw [files_eq, List.lookup_cons] at found
    split at found
    · exact absurd found (by decide)
    · cases found

end SharedTitle

end ReleaseWatch
