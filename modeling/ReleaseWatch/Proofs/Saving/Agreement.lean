import ReleaseWatch.Proofs.Saving.Desk

/-!
# Saved numbers and the ledger

A number is in the ledger exactly if a save of it was complete. From then on the row
stays as it is, and further saves of the number leave no trace. Saves by settings that
ask for nothing never do.
-/

namespace ReleaseWatch

namespace Save

variable {World Outside : Type} {host : Host (StateM World)} {ledger : World → Ledger}
  {outside : World → Outside} {saves : List (Save World)} {after : Ledger}

/-- A save that asks for nothing, or whose number is in the ledger, only writes to the log. -/
theorem result_keeps_of_not_enabled (hasLedger : host.HasLedger ledger outside) {save : Save World}
    (disabled : save.settings.isEnabled = false) :
    ledger (save.result host).2 = ledger save.world ∧
    outside (save.result host).2 = outside save.world := by
  rw [result_of_not_enabled disabled]
  exact hasLedger.log _ save.world

theorem result_keeps_of_mem_ids (hasLedger : host.HasLedger ledger outside) {save : Save World}
    {id : Int} (enabled : save.settings.isEnabled = true) (id_eq : save.entry.id = some id)
    (inside : Ledger.fits id = true) (known : id ∈ (ledger save.world).ids) :
    ledger (save.result host).2 = ledger save.world ∧
    outside (save.result host).2 = outside save.world := by
  rcases exists_isSaved hasLedger id_eq inside with ⟨asked, answered, sameLedger, sameOutside⟩
  rw [List.contains_iff_mem.mpr known] at answered
  rw [result_of_saved enabled answered]
  have logged := hasLedger.log
    { level := .debug, text := "Skipping already saved entry " ++ Entry.idText save.entry.id } asked
  exact ⟨logged.1.trans sameLedger, logged.2.trans sameOutside⟩

/--
Saves after each other on a ledger that is empty at first, of entries that it can enter. Rows only
come, one at most for a number. The numbers are those of the complete saves, each in a row that
states the entry of its first complete save. A further save of a number in the ledger changes
nothing outside, nor does any save by settings that ask for nothing.
-/
theorem ledger_agrees_with_saves (hasLedger : host.HasLedger ledger outside)
    (history : History host ledger {} saves after)
    (recordable : ∀ save ∈ saves, save.entry.IsRecordable) :
    (∀ save ∈ saves, (ledger save.world).rows ⊆ (ledger (save.result host).2).rows ∧
      (ledger (save.result host).2).rows ⊆ after.rows) ∧
    (∀ id, id ∈ after.ids ↔ ∃ save ∈ saves, save.entry.id = some id ∧
      save.IsComplete host) ∧
    after.ids.Nodup ∧
    (∀ row ∈ after.rows, ∃ earlier save later, saves = earlier ++ save :: later ∧
      save.IsComplete host ∧
      row.IsOf save.entry ∧ ∀ other ∈ earlier, other.entry.id = some row.id →
      ¬other.IsComplete host) ∧
    (∀ save : Save World, ledger save.world = after → save.settings.isEnabled = true →
      (∃ id ∈ after.ids, save.entry.id = some id) →
      ledger (save.result host).2 = after ∧ outside (save.result host).2 = outside save.world) ∧
    ∀ save : Save World, save.settings.isEnabled = false →
      ledger (save.result host).2 = ledger save.world ∧
      outside (save.result host).2 = outside save.world := by
  have emptySorted : Ledger.IsSorted ({} : Ledger).rows := List.Pairwise.nil
  have sorted := history.isSorted hasLedger recordable emptySorted
  have ids_iff : ∀ id, id ∈ after.ids ↔ ∃ save ∈ saves, save.entry.id = some id ∧
      save.IsComplete host := by
    intro id
    rw [history.mem_ids_iff hasLedger recordable]
    simp [Ledger.ids]
  refine ⟨?_, ids_iff, ?_, ?_, ?_, ?_⟩
  · intro save save_mem
    exact ⟨rows_subset_result hasLedger save, history.rows_subset_of_mem hasLedger save_mem⟩
  · have apart : after.rows.Pairwise fun first second => first.id ≠ second.id :=
      sorted.imp fun below => Int.ne_of_lt below
    exact List.pairwise_map.mpr apart
  · intro row row_mem
    rcases history.exists_first_of_mem_rows hasLedger recordable emptySorted row_mem with
      never | first
    · cases never
    · exact first
  · rintro save rfl enabled ⟨id, id_mem, id_eq⟩
    rcases (ids_iff id).mp id_mem with ⟨other, other_mem, other_id, _⟩
    rcases (recordable other other_mem).number with ⟨number, number_eq, inside⟩
    cases other_id.symm.trans number_eq
    exact result_keeps_of_mem_ids hasLedger enabled id_eq inside id_mem
  · intro save disabled
    exact result_keeps_of_not_enabled hasLedger disabled

end Save

namespace SecondTry

open Desk (plainHost)

def entry : Entry :=
  { id := some 10, title := some "Show - 01", torrentUrl := "https://tracker.example/10" }

/-- The first answer is an error, the second one brings the download. -/
def start : Desk where
  files := { directories := [["torrents"]] }
  network :=
    { answers := [("https://tracker.example/10", [.reply 503 "" true, .reply 200 "payload" true])] }

def first : Save Desk where
  settings := { directory := .text "torrents", urlFile := .text "-" }
  entry
  world := start

def second : Save Desk :=
  { first with world := (first.result plainHost).2 }

def after : Ledger :=
  (second.result plainHost).2.ledger

theorem isRecordable_entry : entry.IsRecordable where
  title := ⟨_, rfl⟩
  number := ⟨10, rfl, by decide⟩
  episode := by simp [entry]

/--
The second try is complete, so that the number is in the ledger and a third one leaves no trace.
-/
theorem ledger_agrees_with_saves_of_secondTry :
    Save.History plainHost Desk.ledger {} [first, second] after ∧
    (∀ save ∈ [first, second], save.entry.IsRecordable) ∧
    (∃ save ∈ [first, second], save.entry.id = some 10 ∧ save.IsComplete plainHost) ∧
    ∀ third : Save Desk, third.world.ledger = after → third.settings.isEnabled = true →
      third.entry.id = some 10 →
      (third.result plainHost).2.traces = third.world.traces := by
  have history : Save.History plainHost Desk.ledger {} [first, second] after :=
    .cons (.cons (.nil after))
  have recordable : ∀ save ∈ [first, second], save.entry.IsRecordable := by
    refine List.forall_mem_cons.mpr ⟨isRecordable_entry, ?_⟩
    exact List.forall_mem_cons.mpr ⟨isRecordable_entry, List.forall_mem_nil _⟩
  have known : 10 ∈ after.ids := by decide +kernel
  have agrees := Save.ledger_agrees_with_saves
    Desk.hasLedger_plainHost history recordable
  rcases agrees with ⟨_, ids_iff, _, _, noTrace, _⟩
  refine ⟨history, recordable, (ids_iff 10).mp known, ?_⟩
  intro third same enabled id_eq
  exact (noTrace third same enabled ⟨10, known, id_eq⟩).2

end SecondTry

end ReleaseWatch
