import ReleaseWatch.Proofs.Feed.Commitment

/-!
# The selection in full

Entries in any order, of which several may have one number, are selected by two rules. An entry
that names no series is kept as often as it is there. Of the versions of an episode the last of
the greatest ones is kept, in the place at which the episode came up first. The sort by number is
stable, so that these places show among entries of one number, behind those that are no versions.

The champions have been followed through the entries already, by `Versions.Summarizes`. What is
new here is the order in which they stand: `firstSight_addAll` carries it along the same way.
-/

namespace ReleaseWatch

namespace Entry

/-- The series and the episode that an entry is a version of. -/
def episode? (entry : Entry) : Option (String × Int) :=
  entry.info.bind fun info => info.name.map fun name => (name, info.ep)

/-- An entry is a version of an episode, and none of them compares greater than it. -/
def IsGreatest (tieBreak : List String) (entries : List Entry) (entry : Entry) : Prop :=
  ∃ info, entry.IsVersion info ∧
    ∀ other ∈ entries, ∀ otherInfo, other.IsVersion otherInfo →
      otherInfo.identity = info.identity →
      otherInfo.compareBy tieBreak info ≠ .ok .gt

/-- Of the greatest versions of its episode an entry is the last one. -/
def IsLastGreatest (tieBreak : List String) (entries : List Entry) (entry : Entry) : Prop :=
  entry.IsGreatest tieBreak entries ∧
    ∃ before after, entries = before ++ entry :: after ∧
      ∀ other ∈ after, other.SameEpisode entry → ¬other.IsGreatest tieBreak entries

/--
Entries in the order of their numbers, those of one
number in the order in which they stood before.
-/
structure IsStableSort (entries sorted : List Entry) : Prop where
  perm : sorted.Perm entries
  ascending : sorted.Pairwise fun left right => ¬right.Precedes left
  stable : ∀ id, sorted.filter (·.id = id) = entries.filter (·.id = id)

theorem episode?_of_isVersion {entry : Entry} {info : Info} (version : entry.IsVersion info) :
    ∃ name, info.name = some name ∧ entry.episode? = some (name, info.ep) := by
  rcases Option.ne_none_iff_exists'.mp version.2 with ⟨name, named⟩
  exact ⟨name, named, by simp [episode?, version.1, named]⟩

theorem episode?_eq_none_iff {entry : Entry} : entry.episode? = none ↔ entry.version? = none := by
  rw [version?_eq_none_iff_name]
  simp [episode?]

theorem isNone_version? (entry : Entry) :
    entry.version?.isNone = entry.info.all (·.name.isNone) := by
  unfold version?
  cases entry.info with
  | none => rfl
  | some info =>
      cases named : info.name <;> simp [named]

/-- A champion is the last of the greatest versions of its episode. -/
theorem Leads.isLastGreatest {tieBreak : List String} {entries : List Entry}
    {champion : Info × Entry} (labels : InfoKey.AreLabels tieBreak)
    (leads : Leads (Info.tieBreakKeys tieBreak) entries champion) :
    champion.2.IsLastGreatest tieBreak entries := by
  refine ⟨⟨champion.1, leads.1, ?_⟩, ?_⟩
  · intro other other_mem info version sameEpisode greater
    have below := leads.isLE other_mem version sameEpisode
    rw [← Info.compareBy_eq_ok_of_identity_eq greater sameEpisode] at below
    cases below
  · rcases leads with ⟨championVersion, before, after, entries_eq, _, below⟩
    refine ⟨before, after, entries_eq, ?_⟩
    rintro other after_mem ⟨info, info', version, version', sameEpisode⟩
      ⟨otherInfo, otherVersion, noGreater⟩
    cases info_eq_of_isVersion version' championVersion
    cases info_eq_of_isVersion version otherVersion
    have champion_mem : champion.2 ∈ entries := by simp [entries_eq]
    rcases Info.exists_compareBy_eq_ok labels champion.1 info with ⟨order, compared⟩
    have order_eq := Info.compareBy_eq_ok_of_identity_eq compared sameEpisode.symm
    rw [Info.compareUnder_swap, below other after_mem info version sameEpisode] at order_eq
    rw [order_eq] at compared
    exact noGreater champion.2 champion_mem champion.1 championVersion sameEpisode.symm compared

end Entry

theorem eraseDups_concat_of_mem {α : Type} [BEq α] [LawfulBEq α] {items : List α} {item : α}
    (known : item ∈ items) :
    (items ++ [item]).eraseDups = items.eraseDups := by
  rw [List.eraseDups_append]
  simp [List.removeAll, known]

theorem eraseDups_concat_of_not_mem {α : Type} [BEq α] [LawfulBEq α] {items : List α}
    {item : α} (isNew : item ∉ items) :
    (items ++ [item]).eraseDups = items.eraseDups ++ [item] := by
  rw [List.eraseDups_append]
  simp [List.removeAll, isNew, List.eraseDups_cons]

namespace Versions

/-- The episodes of the champions stand in the order in which they came up. -/
def FirstSight (versions : Versions) (seen : List Entry) : Prop :=
  versions.best.map (·.1.identity) =
    (seen.filterMap Entry.episode?).eraseDups.map fun episode => (some episode.1, episode.2)

theorem FirstSight.empty : FirstSight {} [] := by
  simp [FirstSight]

theorem FirstSight.mem_iff {versions : Versions} {seen : List Entry}
    (inOrder : versions.FirstSight seen) (name : String) (ep : Int) :
    (name, ep) ∈ seen.filterMap Entry.episode? ↔
      ∃ champion ∈ versions.best, champion.1.identity = (some name, ep) := by
  rw [← List.mem_eraseDups, ← List.mem_map, inOrder, List.mem_map]
  constructor
  · intro episode_mem
    exact ⟨(name, ep), episode_mem, rfl⟩
  · rintro ⟨⟨other, otherEp⟩, episode_mem, same⟩
    cases same
    exact episode_mem

theorem firstSight_add {tieBreak : List String} {versions next : Versions} {seen : List Entry}
    {entry : Entry} (inOrder : versions.FirstSight seen)
    (added : (versions.add tieBreak entry).outcome = .ok next) :
    next.FirstSight (seen ++ [entry]) := by
  unfold FirstSight
  rw [List.filterMap_append]
  simp only [Versions.add] at added
  split at added
  · next noVersion =>
      cases added
      rw [List.filterMap_cons_none (Entry.episode?_eq_none_iff.mpr noVersion), List.filterMap_nil,
        List.append_nil]
      exact inOrder
  · next info name found =>
      have version : entry.IsVersion info := Entry.isVersion_iff.mpr ⟨name, found⟩
      rcases Entry.episode?_of_isVersion version with ⟨name, named, episode_eq⟩
      have identity_eq : info.identity = (some name, info.ep) := by rw [Info.identity, named]
      rcases Logged.outcome_bind_eq_ok_iff.mp added with ⟨best, addedVersion, done⟩
      cases done
      simp only [List.filterMap_cons, List.filterMap_nil, episode_eq]
      rcases addVersion_eq_ok addedVersion with
        ⟨before, champion, after, order, best_eq, sameEpisode, _, rfl⟩ | ⟨first, rfl⟩
      · -- whoever wins takes a place that the episode has had before
        have known := (inOrder.mem_iff name info.ep).mpr
          ⟨champion, by simp [best_eq], sameEpisode.trans identity_eq⟩
        rw [eraseDups_concat_of_mem known, ← inOrder, best_eq]
        split <;> simp [sameEpisode]
      · have isNew : (name, info.ep) ∉ seen.filterMap Entry.episode? := by
          rw [inOrder.mem_iff]
          rintro ⟨champion, champion_mem, same⟩
          exact first champion champion_mem (same.trans identity_eq.symm)
        rw [eraseDups_concat_of_not_mem isNew, List.map_append, List.map_append, ← inOrder]
        simp [identity_eq]

theorem firstSight_addAll {tieBreak : List String} {versions final : Versions}
    {seen entries : List Entry} (inOrder : versions.FirstSight seen)
    (added : (versions.addAll tieBreak entries).outcome = .ok final) :
    final.FirstSight (seen ++ entries) := by
  induction entries generalizing versions seen with
  | nil =>
      cases added
      simpa using inOrder
  | cons entry rest ih =>
      rw [Versions.addAll] at added
      rcases Logged.outcome_bind_eq_ok_iff.mp added with ⟨next, addedFirst, addedRest⟩
      have goneThrough := ih (firstSight_add inOrder addedFirst) addedRest
      simpa using goneThrough

end Versions

/--
The entries of one number are in order already, so that a stable sort leaves them as they are.
-/
theorem filter_sortByNumber {entries sorted : List Entry} (done : sortByNumber entries = .ok sorted)
    (id : Option Int) : sorted.filter (·.id = id) = entries.filter (·.id = id) := by
  rcases Outcome.bind_eq_ok_iff.mp done with ⟨numbered, paired, done⟩
  cases done
  rcases withNumbers_eq_ok paired with ⟨same, agree⟩
  let hasId : Int × Entry → Bool := fun pair => pair.2.id = id
  have inOrder : (numbered.filter hasId).Pairwise fun left right =>
      decide (left.1 ≤ right.1) = true := by
    apply List.pairwise_of_forall_mem_list
    intro left left_mem right right_mem
    rw [List.mem_filter] at left_mem right_mem
    have left_id : left.2.id = id := by simpa [hasId] using left_mem.2
    have right_id : right.2.id = id := by simpa [hasId] using right_mem.2
    rw [agree left left_mem.1] at left_id
    rw [agree right right_mem.1, ← left_id, Option.some_inj] at right_id
    simp [right_id]
  have stays :=
    (List.sublist_mergeSort number_le_trans number_le_total inOrder List.filter_sublist).filter
      hasId
  rw [List.filter_filter] at stays
  simp only [Bool.and_self] at stays
  have sameLength :=
    ((List.mergeSort_perm numbered fun left right => left.1 ≤ right.1).filter hasId).length_eq
  have unchanged := stays.eq_of_length sameLength.symm
  rw [List.filter_map, ← same, List.filter_map]
  exact congrArg (List.map (·.2)) unchanged.symm

/--
Of entries with numbers, by tie-break keys that there are, something is selected: the entries that
name no series, each as often as it is there, and one champion for each episode, which is the last
of its greatest versions. They are sorted by number, and among those of one number the champions
stand last, in the order in which their episodes came up.
-/
theorem selectBest_keeps_last_greatest {tieBreak : List String} {entries : List Entry}
    (labels : InfoKey.AreLabels tieBreak) (numbered : ∀ entry ∈ entries, entry.id ≠ none) :
    ∃ selected champions, (selectBest tieBreak entries).outcome = .ok selected ∧
      Entry.IsStableSort (entries.filter (fun entry => entry.info.all (·.name.isNone)) ++
        champions) selected ∧
      champions.map Entry.episode? = (entries.filterMap Entry.episode?).eraseDups.map some ∧
      ∀ champion ∈ champions, champion.IsLastGreatest tieBreak entries := by
  rcases exists_selectBest_eq_ok labels numbered with ⟨selected, done⟩
  rcases Logged.outcome_bind_eq_ok_iff.mp done with ⟨versions, added, sortedKept⟩
  have summary := (Versions.Summarizes.empty (Info.tieBreakKeys tieBreak)).addAll added
  have inOrder : versions.FirstSight entries := Versions.firstSight_addAll .empty added
  rw [List.nil_append] at summary
  have kept_eq : versions.kept =
      entries.filter (fun entry => entry.info.all (·.name.isNone)) ++
        versions.best.map (·.2) := by
    rw [Versions.kept, summary.others_eq]
    simp only [Entry.isNone_version?]
  refine ⟨selected, versions.best.map (·.2), done, ?_, ?_, ?_⟩
  · rw [← kept_eq]
    exact ⟨(sortByNumber_eq_ok sortedKept).1, (sortByNumber_eq_ok sortedKept).2,
      filter_sortByNumber sortedKept⟩
  · have episodes :=
      congrArg (List.map fun identity : Option String × Int => identity.1.map (·, identity.2))
        inOrder
    rw [List.map_map, List.map_map] at episodes
    rw [List.map_map]
    refine Eq.trans (List.map_congr_left fun champion champion_mem => ?_) episodes
    rcases Entry.episode?_of_isVersion (summary.leads champion champion_mem).1 with
      ⟨name, named, episode_eq⟩
    simp [episode_eq, Info.identity, named]
  · intro champion champion_mem
    rcases List.mem_map.mp champion_mem with ⟨pair, pair_mem, rfl⟩
    exact (summary.leads pair pair_mem).isLastGreatest labels

namespace EqualNumbers

def version (id ep ver : Int) : Entry :=
  { id := some id, info := some { name := some "Show", ep, endep := ep, ver } }

def plain : Entry :=
  { id := some 3 }

/--
Four entries of two numbers: the second episode comes
up first, and the first one in two versions that tie.
-/
def entries : List Entry :=
  [version 7 2 1, version 3 1 2, plain, { version 3 1 2 with title := some "again" }]

theorem areLabels : InfoKey.AreLabels ["res", "ver"] := by
  refine List.forall_mem_cons.mpr ⟨⟨.res, by decide⟩, ?_⟩
  exact List.forall_mem_cons.mpr ⟨⟨.ver, by decide⟩, List.forall_mem_nil _⟩

theorem numbered : ∀ entry ∈ entries, entry.id ≠ none := by
  decide

theorem selectBest_keeps_last_greatest_of_equalNumbers :
    InfoKey.AreLabels ["res", "ver"] ∧ (∀ entry ∈ entries, entry.id ≠ none) ∧
    ∃ selected champions, (selectBest ["res", "ver"] entries).outcome = .ok selected ∧
      Entry.IsStableSort (plain :: champions) selected ∧
      champions.map Entry.episode? = [some ("Show", 2), some ("Show", 1)] ∧
      ∀ champion ∈ champions, champion.IsLastGreatest ["res", "ver"] entries := by
  rcases selectBest_keeps_last_greatest areLabels numbered with
    ⟨selected, champions, done, sorted, episodes, lastGreatest⟩
  have others_eq : entries.filter (fun entry => entry.info.all (·.name.isNone)) =
      [plain] := by decide
  have dups_eq : (entries.filterMap Entry.episode?).eraseDups =
      [("Show", 2), ("Show", 1)] := by decide
  rw [others_eq] at sorted
  rw [dups_eq] at episodes
  exact ⟨areLabels, numbered, selected, champions, done, sorted, episodes, lastGreatest⟩

end EqualNumbers

end ReleaseWatch
