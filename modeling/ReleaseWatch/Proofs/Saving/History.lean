import ReleaseWatch.Proofs.Saving.Course
import ReleaseWatch.Proofs.Saving.Ledger

/-!
# What the ledger knows of the saves

Saves follow each other on one ledger, under settings that may change from one to the next, and
with anything happening between them but to the ledger. One save changes the ledger exactly if it
is complete, and then by one row that states its entry. By induction the ledger has exactly the
numbers of the complete saves, each with the row of the first of these.

The host is any one that has a ledger: what comes of a request, which files can be written and
what is left of them when that fails is up to it.
-/

namespace ReleaseWatch

/--
A host that has a ledger in its world. Only what is entered in the ledger changes it, and neither
the log nor a look into the ledger leaves a trace outside of it.
-/
structure Host.HasLedger {World Outside : Type} (host : Host (StateM World))
    (ledger : World → Ledger) (outside : World → Outside) : Prop where
  log : ∀ line world, ledger ((host.log line).run world).2 = ledger world ∧
    outside ((host.log line).run world).2 = outside world
  print : ∀ text world, ledger ((host.print text).run world).2 = ledger world
  append : ∀ file text world, ledger (perform (host.appendFile file text) world).2 = ledger world
  write : ∀ path text world, ledger (perform (host.writeFile path text) world).2 = ledger world
  move : ∀ source target world, ledger (perform (host.moveFile source target) world).2 =
    ledger world
  request : ∀ url world, ledger ((host.request url).run world).2 = ledger world
  look : ∀ id world, ∃ asked, perform (host.ledgerHolds id) world =
    ((ledger world).holds id, asked) ∧
    ledger asked = ledger world ∧ outside asked = outside world
  enter : ∀ entry world, ∃ entered,
    perform (host.enterLedger entry) world =
      (((ledger world).enter entry).map fun _ => (), entered) ∧
    ledger entered = ((ledger world).enter entry).toOption.getD (ledger world)

namespace Save

variable {World Outside : Type} {host : Host (StateM World)} {ledger : World → Ledger}
  {outside : World → Outside} {save : Save World} {asked : World} {id : Int}

theorem exists_isSaved (hasLedger : host.HasLedger ledger outside) (id_eq : save.entry.id = some id)
    (inside : Ledger.fits id = true) :
    ∃ asked, perform (SaveSettings.isSaved host save.entry) save.world =
        (.ok ((ledger save.world).ids.contains id), asked) ∧
      ledger asked = ledger save.world ∧ outside asked = outside save.world := by
  have looked := hasLedger.look id save.world
  rw [Ledger.holds_of_fits inside] at looked
  unfold SaveSettings.isSaved
  rw [id_eq]
  exact looked

theorem IsNew.not_mem_ids (hasLedger : host.HasLedger ledger outside)
    (isNew : save.IsNew host asked)
    (id_eq : save.entry.id = some id) : id ∉ (ledger save.world).ids := by
  have unknown := isNew.2
  unfold SaveSettings.isSaved at unknown
  rw [id_eq] at unknown
  rcases hasLedger.look id save.world with ⟨reached, looked, _⟩
  have holds_eq : (ledger save.world).holds id = .ok false :=
    congrArg Prod.fst (looked.symm.trans unknown)
  rcases Outcome.bind_eq_ok_iff.mp holds_eq with ⟨_, _, missing⟩
  intro there
  rw [List.contains_iff_mem.mpr there] at missing
  cases missing

theorem keeps_ledger_isSaved (hasLedger : host.HasLedger ledger outside) (entry : Entry)
    (held : Ledger) :
    Keeps (fun world => ledger world = held) (SaveSettings.isSaved host entry) := by
  unfold SaveSettings.isSaved
  cases entry.id with
  | none => exact Keeps.ofOutcome (.ok false)
  | some id =>
      intro world same
      rcases hasLedger.look id world with ⟨asked, looked, kept, _⟩
      rw [looked]
      exact kept.trans same

theorem keeps_ledger_addLines (hasLedger : host.HasLedger ledger outside) (settings : SaveSettings)
    (entry : Entry)
    (held : Ledger) : Keeps (fun world => ledger world = held) (settings.addLines host entry) := by
  apply SaveSettings.keeps_addLines
  · intro text world same
    exact (hasLedger.print text world).trans same
  · intro _ file text _ _ _ world same
    exact (hasLedger.append file text world).trans same

theorem keeps_ledger_download (hasLedger : host.HasLedger ledger outside) (directory : Value)
    (entry : Entry) (held : Ledger) :
    Keeps (fun world => ledger world = held) (SaveSettings.download host directory entry) := by
  apply SaveSettings.keeps_download
  · intro line world same
    exact (hasLedger.log line world).1.trans same
  · intro url world same
    exact (hasLedger.request url world).trans same
  · intro path text world same
    exact (hasLedger.write path text world).trans same
  · intro source target world same
    exact (hasLedger.move source target world).trans same

theorem ledger_downloadIfSet (hasLedger : host.HasLedger ledger outside) (settings : SaveSettings)
    (entry : Entry)
    (world : World) : ledger ((settings.downloadIfSet host entry).run world).2 = ledger world := by
  unfold SaveSettings.downloadIfSet
  split
  · exact keeps_ledger_download hasLedger settings.directory entry (ledger world) world rfl
  · rfl

theorem ledger_result_of_not_isComplete (hasLedger : host.HasLedger ledger outside)
    (incomplete : ¬save.IsComplete host) : ledger (save.result host).2 = ledger save.world := by
  apply holds_result_of_not_isComplete
    (fun line world same => (hasLedger.log line world).1.trans same)
    (keeps_ledger_isSaved hasLedger save.entry _)
    (keeps_ledger_addLines hasLedger save.settings save.entry _) _ incomplete rfl
  intro listed failure fetched same downloaded
  have kept := ledger_downloadIfSet hasLedger save.settings save.entry listed
  rw [downloaded] at kept
  exact kept.trans same

theorem ledger_of_completes (hasLedger : host.HasLedger ledger outside) {settings : SaveSettings}
    {entry : Entry} {world done : World} (completes : settings.Completes host entry world done) :
    ledger done = ledger world := by
  rcases completes with ⟨listed, bothListed, first, second, fetched⟩
  have lines := SaveSettings.perform_addLines_eq_ok_iff.mpr ⟨listed, first, second⟩
  have keptByLines :=
    (keeps_ledger_addLines hasLedger settings entry (ledger world)).reached lines rfl
  have keptByDownload := ledger_downloadIfSet hasLedger settings entry bothListed
  rw [SaveSettings.run_downloadIfSet_eq_ok_iff.mpr fetched] at keptByDownload
  exact keptByDownload.trans keptByLines

theorem ledger_result_of_isComplete (hasLedger : host.HasLedger ledger outside)
    (complete : save.IsComplete host) :
    ledger (save.result host).2 =
      ((ledger save.world).enter save.entry).toOption.getD (ledger save.world) := by
  rcases complete with ⟨asked, done, isNew, completes⟩
  have askedKept :=
    (keeps_ledger_isSaved hasLedger save.entry (ledger save.world)).reached isNew.2 rfl
  have doneKept := (ledger_of_completes hasLedger completes).trans askedKept
  rcases hasLedger.enter save.entry done with ⟨entered, performed, entered_eq⟩
  rw [doneKept] at performed entered_eq
  rw [result_of_completes isNew completes, SaveSettings.concludes, perform_bind, performed]
  cases outcome : (ledger save.world).enter save.entry with
  | error failure =>
      rw [outcome] at entered_eq
      exact entered_eq
  | ok next =>
      rw [outcome] at entered_eq
      exact ((hasLedger.log _ entered).1).trans entered_eq

/--
A complete save of an entry that can be entered brings one new row, and the row states the entry.
-/
theorem exists_row_of_isComplete (hasLedger : host.HasLedger ledger outside)
    (recordable : save.entry.IsRecordable) (complete : save.IsComplete host) :
    ∃ row : LedgerRow, row.IsOf save.entry ∧
      (∀ other ∈ (ledger save.world).rows, other.id ≠ row.id) ∧
      (ledger (save.result host).2).rows = Ledger.insertRow row (ledger save.world).rows := by
  rcases (ledger save.world).exists_enter_of_isRecordable recordable with ⟨row, isOf, entered⟩
  refine ⟨row, isOf, ?_, ?_⟩
  · rcases complete with ⟨asked, done, isNew, completes⟩
    intro other there same
    exact isNew.not_mem_ids hasLedger isOf.id (Ledger.mem_ids_iff.mpr ⟨other, there, same⟩)
  · rw [ledger_result_of_isComplete hasLedger complete, entered]
    rfl

/-- The rows after a save are those before it and, if it is complete, one that states its entry. -/
theorem mem_rows_result_cases (hasLedger : host.HasLedger ledger outside)
    (recordable : save.entry.IsRecordable) :
    (save.IsComplete host ∧ ∃ row : LedgerRow, row.IsOf save.entry ∧
      ∀ other, other ∈ (ledger (save.result host).2).rows ↔
        other = row ∨ other ∈ (ledger save.world).rows) ∨
    ¬save.IsComplete host ∧ ∀ other, other ∈ (ledger (save.result host).2).rows ↔
      other ∈ (ledger save.world).rows := by
  by_cases complete : save.IsComplete host
  · rcases exists_row_of_isComplete hasLedger recordable complete with
      ⟨row, isOf, isNew, inserted⟩
    refine Or.inl ⟨complete, row, isOf, ?_⟩
    intro other
    rw [inserted, Ledger.mem_insertRow_iff isNew]
  · refine Or.inr ⟨complete, ?_⟩
    intro other
    rw [ledger_result_of_not_isComplete hasLedger complete]

theorem rows_subset_result (hasLedger : host.HasLedger ledger outside) (save : Save World) :
    (ledger save.world).rows ⊆ (ledger (save.result host).2).rows := by
  by_cases complete : save.IsComplete host
  · rw [ledger_result_of_isComplete hasLedger complete]
    cases entered : (ledger save.world).enter save.entry with
    | error failure => exact List.Subset.refl _
    | ok next =>
        rcases Ledger.rows_of_enter entered with rfl | ⟨row, _, inserted⟩
        · exact List.Subset.refl _
        · intro other there
          change other ∈ next.rows
          rw [inserted]
          exact Ledger.mem_insertRow_of_mem there
  · rw [ledger_result_of_not_isComplete hasLedger complete]
    exact List.Subset.refl _

/--
A save of an entry with a number brings no other number
into the ledger, and this one only if it is complete.
-/
theorem mem_ids_result_cases (hasLedger : host.HasLedger ledger outside)
    (numbered : save.entry.id ≠ none) (id_mem : id ∈ (ledger (save.result host).2).ids) :
    id ∈ (ledger save.world).ids ∨ save.entry.id = some id ∧ save.IsComplete host := by
  by_cases complete : save.IsComplete host
  · rw [ledger_result_of_isComplete hasLedger complete] at id_mem
    cases entered : (ledger save.world).enter save.entry with
    | error failure =>
        rw [entered] at id_mem
        exact Or.inl id_mem
    | ok next =>
        rw [entered] at id_mem
        rcases Ledger.rows_of_enter entered with rfl | ⟨row, row_id, inserted⟩
        · exact Or.inl id_mem
        · rcases Ledger.mem_ids_iff.mp id_mem with ⟨other, there, rfl⟩
          change other ∈ next.rows at there
          rw [inserted] at there
          rcases Ledger.eq_or_mem_of_mem_insertRow there with rfl | old
          · rcases Option.ne_none_iff_exists'.mp numbered with ⟨number, number_eq⟩
            rw [row_id number number_eq]
            exact Or.inr ⟨number_eq, complete⟩
          · exact Or.inl (Ledger.mem_ids_iff.mpr ⟨other, old, rfl⟩)
  · rw [ledger_result_of_not_isComplete hasLedger complete] at id_mem
    exact Or.inl id_mem

theorem mem_ids_result_iff (hasLedger : host.HasLedger ledger outside)
    (recordable : save.entry.IsRecordable) :
    id ∈ (ledger (save.result host).2).ids ↔
      id ∈ (ledger save.world).ids ∨ save.entry.id = some id ∧ save.IsComplete host := by
  constructor
  · rcases recordable.number with ⟨number, number_eq, _⟩
    exact mem_ids_result_cases hasLedger (Option.ne_none_iff_exists'.mpr ⟨number, number_eq⟩)
  · rintro (known | ⟨id_eq, complete⟩)
    · exact List.map_subset (·.id) (rows_subset_result hasLedger save) known
    · rcases exists_row_of_isComplete hasLedger recordable complete with
        ⟨row, isOf, isNew, inserted⟩
      have row_mem : row ∈ (ledger (save.result host).2).rows := by
        rw [inserted]
        exact Ledger.mem_insertRow_self isNew
      exact Ledger.mem_ids_iff.mpr ⟨row, row_mem, Option.some.inj (isOf.id.symm.trans id_eq)⟩

theorem isSorted_result (hasLedger : host.HasLedger ledger outside)
    (recordable : save.entry.IsRecordable) (sorted : Ledger.IsSorted (ledger save.world).rows) :
    Ledger.IsSorted (ledger (save.result host).2).rows := by
  by_cases complete : save.IsComplete host
  · rcases exists_row_of_isComplete hasLedger recordable complete with ⟨row, _, _, inserted⟩
    rw [inserted]
    exact sorted.insertRow row
  · rw [ledger_result_of_not_isComplete hasLedger complete]
    exact sorted

/--
Saves one after the other on one ledger, from what it
holds before the first to what it holds after the last.
-/
inductive History (host : Host (StateM World)) (ledger : World → Ledger) :
    Ledger → List (Save World) → Ledger → Prop
  | nil (held : Ledger) : History host ledger held [] held
  | cons {save : Save World} {later : List (Save World)} {after : Ledger}
      (rest : History host ledger (ledger (save.result host).2) later after) :
      History host ledger (ledger save.world) (save :: later) after

namespace History

variable {before after : Ledger} {saves : List (Save World)}

theorem rows_subset (hasLedger : host.HasLedger ledger outside)
    (history : History host ledger before saves after) :
    before.rows ⊆ after.rows := by
  induction history with
  | nil held => exact List.Subset.refl _
  | cons rest ih => exact List.Subset.trans (rows_subset_result hasLedger _) ih

theorem rows_subset_world_of_mem (hasLedger : host.HasLedger ledger outside)
    (history : History host ledger before saves after) (save_mem : save ∈ saves) :
    before.rows ⊆ (ledger save.world).rows := by
  induction history with
  | nil held => cases save_mem
  | cons rest ih =>
      rcases List.mem_cons.mp save_mem with rfl | inRest
      · exact List.Subset.refl _
      · exact List.Subset.trans (rows_subset_result hasLedger _) (ih inRest)

theorem rows_subset_of_mem (hasLedger : host.HasLedger ledger outside)
    (history : History host ledger before saves after) (save_mem : save ∈ saves) :
    (ledger (save.result host).2).rows ⊆ after.rows := by
  induction history with
  | nil held => cases save_mem
  | cons rest ih =>
      rcases List.mem_cons.mp save_mem with rfl | inRest
      · exact rest.rows_subset hasLedger
      · exact ih inRest

theorem isSorted (hasLedger : host.HasLedger ledger outside)
    (history : History host ledger before saves after)
    (recordable : ∀ save ∈ saves, save.entry.IsRecordable)
    (sorted : Ledger.IsSorted before.rows) :
    Ledger.IsSorted after.rows := by
  induction history with
  | nil held => exact sorted
  | cons rest ih =>
      rcases List.forall_mem_cons.mp recordable with ⟨first, others⟩
      exact ih others (isSorted_result hasLedger first sorted)

theorem mem_ids_cases (hasLedger : host.HasLedger ledger outside)
    (history : History host ledger before saves after)
    (numbered : ∀ save ∈ saves, save.entry.id ≠ none) (id_mem : id ∈ after.ids) :
    id ∈ before.ids ∨ ∃ save ∈ saves, save.entry.id = some id ∧ save.IsComplete host := by
  induction history with
  | nil held => exact Or.inl id_mem
  | cons rest ih =>
      rcases List.forall_mem_cons.mp numbered with ⟨first, others⟩
      rcases ih others id_mem with behind | ⟨save, save_mem, isOne⟩
      · rcases mem_ids_result_cases hasLedger first behind with known | isFirst
        · exact Or.inl known
        · exact Or.inr ⟨_, List.mem_cons_self, isFirst⟩
      · exact Or.inr ⟨save, List.mem_cons_of_mem _ save_mem, isOne⟩

/-- The numbers after the saves are those before them and those of the complete saves. -/
theorem mem_ids_iff (hasLedger : host.HasLedger ledger outside)
    (history : History host ledger before saves after)
    (recordable : ∀ save ∈ saves, save.entry.IsRecordable) :
    id ∈ after.ids ↔ id ∈ before.ids ∨ ∃ save ∈ saves, save.entry.id = some id ∧
    save.IsComplete host := by
  induction history with
  | nil held => simp
  | cons rest ih =>
      rcases List.forall_mem_cons.mp recordable with ⟨first, others⟩
      rw [ih others, mem_ids_result_iff hasLedger first, or_assoc]
      simp only [List.mem_cons, exists_eq_or_imp]

/--
A row after the saves was there before them, or it states
the entry of the first complete save of its number.
-/
theorem exists_first_of_mem_rows (hasLedger : host.HasLedger ledger outside)
    (history : History host ledger before saves after)
    (recordable : ∀ save ∈ saves, save.entry.IsRecordable)
    (sorted : Ledger.IsSorted before.rows) {row : LedgerRow} (row_mem : row ∈ after.rows) :
    row ∈ before.rows ∨ ∃ earlier save later, saves = earlier ++ save :: later ∧
    save.IsComplete host ∧
      row.IsOf save.entry ∧ ∀ other ∈ earlier, other.entry.id = some row.id →
      ¬other.IsComplete host := by
  induction history with
  | nil held => exact Or.inl row_mem
  | cons rest ih =>
      rename_i save later after
      rcases List.forall_mem_cons.mp recordable with ⟨first, others⟩
      have sortedBehind := isSorted_result hasLedger first sorted
      have sortedAfter := rest.isSorted hasLedger others sortedBehind
      -- The first complete save of the number is this one, or it is among the later ones.
      by_cases isFirst : save.entry.id = some row.id ∧ save.IsComplete host
      · right
        rcases isFirst with ⟨sameNumber, complete⟩
        rcases exists_row_of_isComplete hasLedger first complete with
          ⟨entered, isOf, isNew, inserted⟩
        have entered_mem : entered ∈ (ledger (save.result host).2).rows := by
          rw [inserted]
          exact Ledger.mem_insertRow_self isNew
        have same : row.id = entered.id := Option.some.inj (sameNumber.symm.trans isOf.id)
        cases sortedAfter.eq_of_id_eq row_mem (rest.rows_subset hasLedger entered_mem) same
        exact ⟨[], save, later, rfl, complete, isOf, by simp⟩
      · rcases ih others sortedBehind row_mem with
          behind | ⟨earlier, found, behind, rfl, complete, isOf, noEarlier⟩
        · left
          rcases mem_rows_result_cases hasLedger first with
            ⟨complete, entered, isOf, mem_iff⟩ | ⟨_, mem_iff⟩
          · rcases (mem_iff row).mp behind with rfl | old
            · exact absurd ⟨isOf.id, complete⟩ isFirst
            · exact old
          · exact (mem_iff row).mp behind
        · right
          refine ⟨save :: earlier, found, behind, rfl, complete, isOf, ?_⟩
          refine List.forall_mem_cons.mpr ⟨?_, noEarlier⟩
          intro sameNumber complete
          exact isFirst ⟨sameNumber, complete⟩

end History

end Save

end ReleaseWatch
