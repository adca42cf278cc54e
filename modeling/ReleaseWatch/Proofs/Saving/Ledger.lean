import ReleaseWatch.Proofs.Outcome
import ReleaseWatch.Saving.Ledger

/-!
# Rows of the ledger

An entry that has a title, and whose numbers the ledger can hold, is entered as one row that
states it. The rows that are there already stay, and all rows stay in the order of their numbers,
so that there is one row at most for a number.
-/

namespace ReleaseWatch

/--
The ledger can enter the entry: it has a title and a number, and its numbers are not too wide.
-/
structure Entry.IsRecordable (entry : Entry) : Prop where
  title : ∃ title, entry.title = some title
  number : ∃ id, entry.id = some id ∧ Ledger.fits id = true
  episode : ∀ info, entry.info = some info → Ledger.fits info.ep = true

/-- A row states an entry. -/
structure LedgerRow.IsOf (row : LedgerRow) (entry : Entry) : Prop where
  id : entry.id = some row.id
  title : entry.title = some row.title
  link : row.link = entry.torrentUrl
  name : row.name = entry.info.bind (·.name)
  episode : row.episode = entry.info.map (·.ep)

namespace Ledger

variable {ledger next : Ledger} {row other : LedgerRow} {rows : List LedgerRow} {entry : Entry}
    {id : Int}

/-- The rows stand in the order of their numbers, none of which occurs twice. -/
def IsSorted (rows : List LedgerRow) : Prop :=
  rows.Pairwise (·.id < ·.id)

theorem checkFits_eq_ok_iff : checkFits id = .ok () ↔ fits id = true := by
  unfold checkFits
  split
  · next inside => simp [inside]
  · next outside => simp [outside]

theorem holds_of_fits (inside : fits id = true) :
    ledger.holds id = .ok (ledger.ids.contains id) := by
  unfold holds
  rw [checkFits_eq_ok_iff.mpr inside]
  rfl

theorem mem_insertRow_of_mem (there : other ∈ rows) : other ∈ insertRow row rows := by
  induction rows with
  | nil => cases there
  | cons first rest ih =>
      unfold insertRow
      split
      · exact List.mem_cons_of_mem row there
      · split
        · exact there
        · rcases List.mem_cons.mp there with rfl | inRest
          · exact List.mem_cons_self
          · exact List.mem_cons_of_mem first (ih inRest)

theorem eq_or_mem_of_mem_insertRow (there : other ∈ insertRow row rows) :
    other = row ∨ other ∈ rows := by
  induction rows with
  | nil => exact Or.inl (List.mem_singleton.mp there)
  | cons first rest ih =>
      unfold insertRow at there
      split at there
      · exact List.mem_cons.mp there
      · split at there
        · exact Or.inr there
        · rcases List.mem_cons.mp there with rfl | inserted
          · exact Or.inr List.mem_cons_self
          · rcases ih inserted with same | inRest
            · exact Or.inl same
            · exact Or.inr (List.mem_cons_of_mem first inRest)

theorem mem_insertRow_self (isNew : ∀ other ∈ rows, other.id ≠ row.id) :
    row ∈ insertRow row rows := by
  induction rows with
  | nil => exact List.mem_singleton.mpr rfl
  | cons first rest ih =>
      unfold insertRow
      split
      · exact List.mem_cons_self
      · split
        · next same => exact absurd same.symm (isNew first List.mem_cons_self)
        · apply List.mem_cons_of_mem
          exact ih fun other inRest => isNew other (List.mem_cons_of_mem first inRest)

theorem mem_insertRow_iff (isNew : ∀ other ∈ rows, other.id ≠ row.id) :
    other ∈ insertRow row rows ↔ other = row ∨ other ∈ rows := by
  constructor
  · exact eq_or_mem_of_mem_insertRow
  · rintro (rfl | there)
    · exact mem_insertRow_self isNew
    · exact mem_insertRow_of_mem there

theorem IsSorted.insertRow (sorted : IsSorted rows) (row : LedgerRow) :
    IsSorted (insertRow row rows) := by
  induction rows with
  | nil => exact List.pairwise_singleton _ row
  | cons first rest ih =>
      rcases List.pairwise_cons.mp sorted with ⟨below, sortedRest⟩
      unfold Ledger.insertRow
      split
      · next before =>
          refine List.pairwise_cons.mpr ⟨?_, sorted⟩
          intro other there
          rcases List.mem_cons.mp there with rfl | inRest
          · exact before
          · exact Int.lt_trans before (below other inRest)
      · split
        · exact sorted
        · next notBefore notSame =>
            refine List.pairwise_cons.mpr ⟨?_, ih sortedRest⟩
            intro other there
            rcases eq_or_mem_of_mem_insertRow there with rfl | inRest
            · omega
            · exact below other inRest

theorem IsSorted.eq_of_id_eq (sorted : IsSorted rows) (there : row ∈ rows)
    (otherThere : other ∈ rows) (same : row.id = other.id) : row = other := by
  induction rows with
  | nil => cases there
  | cons first rest ih =>
      rcases List.pairwise_cons.mp sorted with ⟨below, sortedRest⟩
      rcases List.mem_cons.mp there with rfl | inRest
      · rcases List.mem_cons.mp otherThere with rfl | otherInRest
        · rfl
        · have smaller := below other otherInRest
          omega
      · rcases List.mem_cons.mp otherThere with rfl | otherInRest
        · have smaller := below row inRest
          omega
        · exact ih sortedRest inRest otherInRest

theorem mem_ids_iff : id ∈ ledger.ids ↔ ∃ row ∈ ledger.rows, row.id = id :=
  List.mem_map

theorem exists_enter_of_isRecordable (ledger : Ledger) (recordable : entry.IsRecordable) :
    ∃ row : LedgerRow, row.IsOf entry ∧
      ledger.enter entry = .ok { rows := insertRow row ledger.rows } := by
  rcases recordable with ⟨⟨title, title_eq⟩, ⟨id, id_eq, inside⟩, episode⟩
  have checked : entry.id.forM checkFits = .ok () := by
    rw [id_eq]
    exact checkFits_eq_ok_iff.mpr inside
  have episodeChecked : (entry.info.forM fun info => checkFits info.ep) = .ok () := by
    cases info_eq : entry.info with
    | none => rfl
    | some info => exact checkFits_eq_ok_iff.mpr (episode info info_eq)
  refine ⟨{ id, title, link := entry.torrentUrl, name := entry.info.bind (·.name),
            episode := entry.info.map (·.ep) }, ⟨id_eq, title_eq, rfl, rfl, rfl⟩, ?_⟩
  unfold enter
  rw [checked, episodeChecked, title_eq, id_eq]
  rfl

/-- What is entered is a row at most, with the number of the entry if it has one. -/
theorem rows_of_enter (entered : ledger.enter entry = .ok next) :
    next = ledger ∨ ∃ row : LedgerRow, (∀ id, entry.id = some id → row.id = id) ∧
      next.rows = insertRow row ledger.rows := by
  rcases Outcome.bind_eq_ok_iff.mp entered with ⟨_, _, rest⟩
  rcases Outcome.bind_eq_ok_iff.mp rest with ⟨_, _, rest⟩
  cases title : entry.title with
  | none =>
      rw [title] at rest
      cases rest
      exact Or.inl rfl
  | some text =>
      rw [title] at rest
      cases rest
      refine Or.inr ⟨_, ?_, rfl⟩
      intro id id_eq
      rw [id_eq]
      rfl

end Ledger

end ReleaseWatch
