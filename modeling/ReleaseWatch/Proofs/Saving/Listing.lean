import ReleaseWatch.Proofs.Saving.Desk

/-!
# How often an entry is listed

An entry is listed before it is downloaded and entered in the ledger. So a save that is broken
off after a list leaves a line there and no row in the ledger, and the next save of the number
adds the line once more. But for the saves that are broken off in this way, a number adds one
line at most to each list.
-/

namespace ReleaseWatch

/-- If of any two items that count the earlier one is excused, all of them but one are excused. -/
theorem countP_le_of_pairwise {Item : Type} {counts excused : Item → Bool} {items : List Item}
    (earlierExcused : items.Pairwise fun earlier later =>
      counts earlier = true → counts later = true → excused earlier = true) :
    items.countP counts ≤ items.countP excused + 1 := by
  induction items with
  | nil => simp
  | cons item rest ih =>
      rcases List.pairwise_cons.mp earlierExcused with ⟨here, inRest⟩
      have rest_le := ih inRest
      rw [List.countP_cons, List.countP_cons]
      by_cases alone : counts item = true ∧ excused item = false
      · have noneBehind : rest.countP counts = 0 := by
          rw [List.countP_eq_zero]
          intro other other_mem otherCounts
          have isExcused := here other other_mem alone.1 otherCounts
          rw [alone.2] at isExcused
          cases isExcused
        rw [noneBehind, if_pos alone.1]
        omega
      · cases isCounted : counts item with
        | false =>
            rw [if_neg Bool.false_ne_true]
            omega
        | true =>
            have isExcused : excused item = true := by
              simpa [isCounted] using alone
            rw [if_pos rfl, if_pos isExcused]
            omega

namespace Save

variable {World Outside : Type} {host : Host (StateM World)} {ledger : World → Ledger}
  {outside : World → Outside} {save : Save World} {saves : List (Save World)}
    {before after : Ledger} {settings : SaveSettings} {id : Int}

/-- A save adds its address to the list of addresses. -/
def AddsUrl (host : Host (StateM World)) (save : Save World) : Prop :=
  ∃ asked listed, save.IsNew host asked ∧ save.settings.urlFile.isTruthy = true ∧
    SaveSettings.Adds host save.settings.urlFile save.entry.torrentUrl asked listed

/-- A save adds its magnet address to the list of these, after the list of addresses. -/
def AddsMagnet (host : Host (StateM World)) (save : Save World) : Prop :=
  ∃ asked listed bothListed uri, save.IsNew host asked ∧
    SaveSettings.Lists host save.settings.urlFile (some save.entry.torrentUrl) asked listed ∧
    save.settings.magnetFile.isTruthy = true ∧ save.entry.magnet? = some uri ∧
    SaveSettings.Adds host save.settings.magnetFile uri listed bothListed

/-- A save leaves the number of its entry out of the ledger. -/
def LeavesOut (host : Host (StateM World)) (ledger : World → Ledger) (save : Save World) : Prop :=
  ∀ id, save.entry.id = some id → id ∉ (ledger (save.result host).2).ids

open Classical in
/-- How many saves of a number are of a kind, such as those that add a line. -/
noncomputable def countOf (kind : Save World → Prop) (id : Int) (saves : List (Save World)) :
    Nat :=
  saves.countP fun save => decide (save.entry.id = some id ∧ kind save)

theorem leavesOut_iff_of_isNew {asked : World} (hasLedger : host.HasLedger ledger outside)
    (recordable : save.entry.IsRecordable) (isNew : save.IsNew host asked) :
    save.LeavesOut host ledger ↔ ¬save.IsComplete host := by
  rcases recordable.number with ⟨number, number_eq, _⟩
  have unknown := isNew.not_mem_ids hasLedger number_eq
  have number_mem_iff : number ∈ (ledger (save.result host).2).ids ↔
      number ∈ (ledger save.world).ids ∨ save.entry.id = some number ∧ save.IsComplete host :=
    mem_ids_result_iff hasLedger recordable
  constructor
  · intro leavesOut complete
    exact leavesOut number number_eq (number_mem_iff.mpr (Or.inr ⟨number_eq, complete⟩))
  · intro incomplete id id_eq id_mem
    cases number_eq.symm.trans id_eq
    rcases number_mem_iff.mp id_mem with known | ⟨_, complete⟩
    · exact unknown known
    · exact incomplete complete

/-- Of two new saves of a number on one ledger, the earlier one leaves the number out. -/
theorem History.pairwise_leavesOut (hasLedger : host.HasLedger ledger outside)
    (history : History host ledger before saves after) (id : Int) :
    saves.Pairwise fun earlier later => earlier.entry.id = some id → later.entry.id = some id →
      (∃ asked, later.IsNew host asked) → earlier.LeavesOut host ledger := by
  induction history with
  | nil held => exact List.Pairwise.nil
  | cons rest ih =>
      refine List.pairwise_cons.mpr ⟨?_, ih⟩
      rintro later later_mem earlier_id later_id ⟨asked, isNew⟩ number number_eq number_mem
      cases earlier_id.symm.trans number_eq
      have kept := List.map_subset (·.id) (rest.rows_subset_world_of_mem hasLedger later_mem)
      exact isNew.not_mem_ids hasLedger later_id (kept number_mem)

/-- All new saves of a number but one leave it out of the ledger. -/
theorem History.countOf_le (hasLedger : host.HasLedger ledger outside)
    (history : History host ledger before saves after) (id : Int) {kind : Save World → Prop}
    (isNew : ∀ save, kind save → ∃ asked, save.IsNew host asked) :
    countOf kind id saves ≤ countOf (fun save => kind save ∧ save.LeavesOut host ledger) id
      saves + 1 := by
  apply countP_le_of_pairwise
  refine (history.pairwise_leavesOut hasLedger id).imp ?_
  intro earlier later leavesOut earlierCounts laterCounts
  simp only [decide_eq_true_eq] at earlierCounts laterCounts ⊢
  rcases earlierCounts with ⟨earlier_id, isKind⟩
  rcases laterCounts with ⟨later_id, laterKind⟩
  exact ⟨earlier_id, isKind, leavesOut earlier_id later_id (isNew later laterKind)⟩

theorem History.countOf_le_one_of_recorded (hasLedger : host.HasLedger ledger outside)
    (history : History host ledger before saves after) (id : Int) {kind : Save World → Prop}
    (isNew : ∀ save, kind save → ∃ asked, save.IsNew host asked)
    (recorded : ∀ save ∈ saves, save.entry.id = some id → kind save →
      ¬save.LeavesOut host ledger) :
    countOf kind id saves ≤ 1 := by
  have bounded := history.countOf_le hasLedger id isNew
  have none_left : countOf (fun save => kind save ∧ save.LeavesOut host ledger) id saves = 0 := by
    unfold countOf
    rw [List.countP_eq_zero]
    intro save save_mem leftOut
    simp only [decide_eq_true_eq] at leftOut
    rcases leftOut with ⟨save_id, isKind, leavesOut⟩
    exact recorded save save_mem save_id isKind leavesOut
  omega

theorem AddsMagnet.isComplete (adds : save.AddsMagnet host)
    (noDirectory : save.settings.directory.isTruthy = false) :
    save.IsComplete host := by
  rcases adds with ⟨asked, listed, bothListed, uri, isNew, isListed, isSet, uri_eq, added⟩
  refine ⟨asked, bothListed, isNew, listed, bothListed, isListed, ?_, ?_⟩
  · rw [SaveSettings.Lists, if_pos isSet, uri_eq]
    exact added
  · rw [SaveSettings.FetchesIfSet, if_neg (by simp [noDirectory])]

theorem AddsUrl.isComplete (adds : save.AddsUrl host)
    (noDirectory : save.settings.directory.isTruthy = false)
    (noMagnets : save.settings.magnetFile.isTruthy = false) : save.IsComplete host := by
  rcases adds with ⟨asked, listed, isNew, isSet, added⟩
  refine ⟨asked, listed, isNew, listed, listed, ?_, ?_, ?_⟩
  · rw [SaveSettings.Lists, if_pos isSet]
    exact added
  · rw [SaveSettings.Lists, if_neg (by simp [noMagnets])]
  · rw [SaveSettings.FetchesIfSet, if_neg (by simp [noDirectory])]

/--
Saves after each other by the same settings. A number adds one line at most to each list, but for
the saves that leave it out of the ledger: of entries that the ledger can hold, these are the ones
of which a later action failed. Without a directory no action comes after the list of magnet
addresses, so that each number is there once at most, and without a list of magnet addresses none
comes after the list of addresses either.
-/
theorem lines_of_number_le (hasLedger : host.HasLedger ledger outside)
    (history : History host ledger before saves after)
    (fixed : ∀ save ∈ saves, save.settings = settings) (id : Int) :
    countOf (AddsUrl host) id saves ≤
      countOf (fun save => save.AddsUrl host ∧ save.LeavesOut host ledger) id saves + 1 ∧
    countOf (AddsMagnet host) id saves ≤
      countOf (fun save => save.AddsMagnet host ∧ save.LeavesOut host ledger) id saves + 1 ∧
    ((∀ save ∈ saves, save.entry.IsRecordable) →
      (∀ save ∈ saves, save.AddsUrl host ∨ save.AddsMagnet host →
        (save.LeavesOut host ledger ↔ ¬save.IsComplete host)) ∧
      (settings.directory.isTruthy = false → countOf (AddsMagnet host) id saves ≤ 1 ∧
        (settings.magnetFile.isTruthy = false → countOf (AddsUrl host) id saves ≤ 1))) := by
  have urlIsNew : ∀ save : Save World, save.AddsUrl host →
      ∃ asked, save.IsNew host asked := by
    rintro save ⟨asked, _, isNew, _⟩
    exact ⟨asked, isNew⟩
  have magnetIsNew : ∀ save : Save World, save.AddsMagnet host →
      ∃ asked, save.IsNew host asked := by
    rintro save ⟨asked, _, _, _, isNew, _⟩
    exact ⟨asked, isNew⟩
  refine ⟨history.countOf_le hasLedger id urlIsNew, history.countOf_le hasLedger id magnetIsNew,
    ?_⟩
  intro recordable
  have leavesOut_iff : ∀ save ∈ saves, save.AddsUrl host ∨ save.AddsMagnet host →
      (save.LeavesOut host ledger ↔ ¬save.IsComplete host) := by
    intro save save_mem adds
    have isNew : ∃ asked, save.IsNew host asked := adds.elim (urlIsNew save) (magnetIsNew save)
    rcases isNew with ⟨asked, isNew⟩
    exact leavesOut_iff_of_isNew hasLedger (recordable save save_mem) isNew
  refine ⟨leavesOut_iff, fun noDirectory => ⟨?_, fun noMagnets => ?_⟩⟩
  · apply history.countOf_le_one_of_recorded hasLedger id magnetIsNew
    intro save save_mem _ adds leftOut
    rw [← fixed save save_mem] at noDirectory
    exact (leavesOut_iff save save_mem (Or.inr adds)).mp leftOut (adds.isComplete noDirectory)
  · apply history.countOf_le_one_of_recorded hasLedger id urlIsNew
    intro save save_mem _ adds leftOut
    rw [← fixed save save_mem] at noDirectory noMagnets
    exact (leavesOut_iff save save_mem (Or.inl adds)).mp leftOut
      (adds.isComplete noDirectory noMagnets)

end Save

namespace BrokenOff

open Desk (plainHost)

def entry : Entry :=
  { id := some 10, title := some "Show - 01", torrentUrl := "https://tracker.example/10",
    magnetUri := some "magnet:?xt=10" }

theorem isRecordable_entry : entry.IsRecordable where
  title := ⟨_, rfl⟩
  number := ⟨10, rfl, by decide⟩
  episode := by simp [entry]

/-- A save that only lists the entry. -/
def listing : Save Desk where
  settings := { urlFile := .text "urls.txt", magnetFile := .text "magnets.txt" }
  entry
  world := {}

def again : Save Desk :=
  { listing with world := (listing.result plainHost).2 }

/-- The magnet address is listed once, however often the entry is saved. -/
theorem lines_of_number_le_of_listing :
    Save.History plainHost Desk.ledger {} [listing, again] (again.result plainHost).2.ledger ∧
    (∀ save ∈ [listing, again], save.settings = listing.settings) ∧
    Save.countOf (Save.AddsMagnet plainHost) 10 [listing, again] ≤ 1 := by
  have history : Save.History plainHost Desk.ledger {} [listing, again]
      (again.result plainHost).2.ledger :=
    .cons (.cons (.nil (again.result plainHost).2.ledger))
  have fixed : ∀ save ∈ [listing, again], save.settings = listing.settings := by
    refine List.forall_mem_cons.mpr ⟨rfl, ?_⟩
    exact List.forall_mem_cons.mpr ⟨rfl, List.forall_mem_nil _⟩
  have recordable : ∀ save ∈ [listing, again], save.entry.IsRecordable := by
    refine List.forall_mem_cons.mpr ⟨isRecordable_entry, ?_⟩
    exact List.forall_mem_cons.mpr ⟨isRecordable_entry, List.forall_mem_nil _⟩
  have bounds := Save.lines_of_number_le Desk.hasLedger_plainHost history fixed 10
  exact ⟨history, fixed, ((bounds.2.2 recordable).2 rfl).1⟩

/--
A save that lists the entry and then fails to download
it, since nothing is known under its address.
-/
def failing : Save Desk where
  settings := { directory := .text "torrents", urlFile := .text "urls.txt" }
  entry
  world := { files := { directories := [["torrents"]] } }

def retried : Save Desk :=
  { failing with world := (failing.result plainHost).2 }

theorem addsUrl_of_added {save : Save Desk} (enabled : save.settings.isEnabled = true)
    (isNew : (perform (SaveSettings.isSaved plainHost save.entry) save.world).1.toOption =
      some false)
    (isSet : save.settings.urlFile.isTruthy = true)
    (added : (perform (SaveSettings.addLine plainHost save.settings.urlFile save.entry.torrentUrl)
      (perform (SaveSettings.isSaved plainHost save.entry) save.world).2).1.toOption = some ()) :
        save.AddsUrl plainHost := by
  have adds :=
    SaveSettings.perform_addLine_eq_ok_iff.mp (Prod.ext (Outcome.eq_ok_of_toOption added) rfl)
  exact ⟨_, _, ⟨enabled, Prod.ext (Outcome.eq_ok_of_toOption isNew) rfl⟩, isSet, adds⟩

/-- Both tries list the address of the one entry, so that the file has it twice. -/
theorem lists_number_twice :
    Save.History plainHost Desk.ledger {} [failing, retried] (retried.result plainHost).2.ledger ∧
    (∀ save ∈ [failing, retried], save.settings = failing.settings ∧
      save.entry.id = some 10) ∧
    ¬Save.countOf (Save.AddsUrl plainHost) 10 [failing, retried] ≤ 1 ∧
    (retried.result plainHost).2.files.text? ["urls.txt"] =
      some "https://tracker.example/10\nhttps://tracker.example/10\n" := by
  have first : failing.AddsUrl plainHost :=
    addsUrl_of_added rfl (by decide +kernel) (by decide +kernel) (by decide +kernel)
  have second : retried.AddsUrl plainHost :=
    addsUrl_of_added rfl (by decide +kernel) (by decide +kernel) (by decide +kernel)
  refine ⟨.cons (.cons (.nil (retried.result plainHost).2.ledger)), ?_, ?_, by decide +kernel⟩
  · refine List.forall_mem_cons.mpr ⟨⟨rfl, rfl⟩, ?_⟩
    exact List.forall_mem_cons.mpr ⟨⟨rfl, rfl⟩, List.forall_mem_nil _⟩
  · have failing_id : failing.entry.id = some 10 := rfl
    have retried_id : retried.entry.id = some 10 := rfl
    simp [Save.countOf, first, second, failing_id, retried_id]

end BrokenOff

end ReleaseWatch
