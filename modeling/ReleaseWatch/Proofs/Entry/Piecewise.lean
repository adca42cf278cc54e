import Mathlib
import ReleaseWatch.Proofs.Feed.Commitment

/-!
# Selecting in pieces

A selection that is put in the place of the entries it was made from selects the same, at
either end of a list. It may put them in another order, since it is sorted by number; what
matters is that the champion of an episode stays where it is with respect to the entries on the
other side of the seam.

`Entry.IsSelected` says of an entry alone whether it is selected. `leads_append_iff` takes a
champion of two pieces apart: it is one of its own piece, and is compared with the whole of the
other one, for which the champion of the other piece will do.
-/

namespace ReleaseWatch

/-- The place of an element in two lists in a row is in the first or in the second one. -/
theorem exists_of_append_eq_middle {α : Type} {front back before after : List α} {element : α}
    (split : front ++ back = before ++ element :: after) :
    (∃ rest, front = before ++ element :: rest ∧ after = rest ++ back) ∨
      ∃ rest, before = front ++ rest ∧ back = rest ++ element :: after := by
  rcases List.append_eq_append_iff.mp split with
    ⟨rest, before_eq, back_eq⟩ | ⟨rest, front_eq, tail_eq⟩
  · exact Or.inr ⟨rest, before_eq, back_eq⟩
  · rcases List.cons_eq_append_iff.mp tail_eq with ⟨rfl, back_eq⟩ | ⟨others, rfl, after_eq⟩
    · rw [List.append_nil] at front_eq
      exact Or.inr ⟨[], by rw [List.append_nil, front_eq], back_eq⟩
    · exact Or.inl ⟨others, front_eq, after_eq⟩

namespace Entry

/-- Every entry has a number, and no two have the same. -/
structure HaveDistinctNumbers (entries : List Entry) : Prop where
  numbered : ∀ entry ∈ entries, entry.id ≠ none
  distinct : entries.Pairwise fun left right => left.id ≠ right.id

/-- Two entries are versions of one episode that no tie-break key tells apart. -/
def TiesInFull (tieBreak : List String) (left right : Entry) : Prop :=
  ∃ leftInfo rightInfo, left.IsVersion leftInfo ∧ right.IsVersion rightInfo ∧
    leftInfo.identity = rightInfo.identity ∧ leftInfo.compareBy tieBreak rightInfo = .ok .eq

/-- Selected are the entries that are no versions, and the champions. -/
def IsSelected (keys : List InfoKey) (entries : List Entry) (entry : Entry) : Prop :=
  entry ∈ entries ∧ entry.version? = none ∨ ∃ info, Leads keys entries (info, entry)

namespace HaveDistinctNumbers

variable {front back entries : List Entry}

theorem nodup (numbers : HaveDistinctNumbers entries) : entries.Nodup := by
  apply numbers.distinct.imp
  intro left right differ same
  exact differ (congrArg Entry.id same)

theorem left (numbers : HaveDistinctNumbers (front ++ back)) : HaveDistinctNumbers front where
  numbered entry entry_mem := numbers.numbered entry (List.mem_append_left back entry_mem)
  distinct := (List.pairwise_append.mp numbers.distinct).1

theorem right (numbers : HaveDistinctNumbers (front ++ back)) : HaveDistinctNumbers back where
  numbered entry entry_mem := numbers.numbered entry (List.mem_append_right front entry_mem)
  distinct := (List.pairwise_append.mp numbers.distinct).2.1

theorem perm (numbers : HaveDistinctNumbers entries) {others : List Entry}
    (same : others.Perm entries) :
    HaveDistinctNumbers others where
  numbered entry entry_mem := numbers.numbered entry (same.mem_iff.mp entry_mem)
  distinct := same.symm.pairwise numbers.distinct fun differ => differ.symm

/--
Entries that are sorted have distinct numbers as long as they are taken from entries that have.
-/
theorem of_sorted {some : List Entry} (numbers : HaveDistinctNumbers entries)
    (sorted : some.Pairwise Precedes) (subset : some ⊆ entries) : HaveDistinctNumbers some where
  numbered entry entry_mem := numbers.numbered entry (subset entry_mem)
  distinct := by
    apply sorted.imp
    rintro left right ⟨leftNumber, rightNumber, left_id, right_id, less⟩ same
    rw [left_id, right_id, Option.some_inj] at same
    omega

/-- Either piece can be replaced by entries that are taken from it and have distinct numbers. -/
theorem append {front' back' : List Entry} (numbers : HaveDistinctNumbers (front ++ back))
    (frontNumbers : HaveDistinctNumbers front') (backNumbers : HaveDistinctNumbers back')
    (frontSubset : front' ⊆ front) (backSubset : back' ⊆ back) :
    HaveDistinctNumbers (front' ++ back') where
  numbered entry entry_mem := by
    rcases List.mem_append.mp entry_mem with front_mem | back_mem
    · exact frontNumbers.numbered entry front_mem
    · exact backNumbers.numbered entry back_mem
  distinct := by
    have across := (List.pairwise_append.mp numbers.distinct).2.2
    refine List.pairwise_append.mpr ⟨frontNumbers.distinct, backNumbers.distinct, ?_⟩
    intro left left_mem right right_mem
    exact across left (frontSubset left_mem) right (backSubset right_mem)

theorem precedes_or_precedes (numbers : HaveDistinctNumbers entries) {left right : Entry}
    (left_mem : left ∈ entries) (right_mem : right ∈ entries) (differ : left ≠ right) :
    left.Precedes right ∨ right.Precedes left := by
  rcases Option.ne_none_iff_exists'.mp (numbers.numbered left left_mem) with
    ⟨leftNumber, left_id⟩
  rcases Option.ne_none_iff_exists'.mp (numbers.numbered right right_mem) with
    ⟨rightNumber, right_id⟩
  have apart : leftNumber ≠ rightNumber := by
    rintro rfl
    have distinct : (entries.map Entry.id).Nodup := List.pairwise_map.mpr numbers.distinct
    exact differ
      (List.inj_on_of_nodup_map distinct left_mem right_mem (left_id.trans right_id.symm))
  rcases Int.lt_or_gt_of_ne apart with less | greater
  · exact Or.inl ⟨leftNumber, rightNumber, left_id, right_id, less⟩
  · exact Or.inr ⟨rightNumber, leftNumber, right_id, left_id, greater⟩

end HaveDistinctNumbers

section Champions

variable {keys : List InfoKey} {front back entries : List Entry} {champion : Info × Entry}

/-- An episode has one champion. -/
theorem Leads.unique {other : Info × Entry} (leads : Leads keys entries champion)
    (otherLeads : Leads keys entries other) (sameEpisode : other.1.identity = champion.1.identity) :
    other = champion := by
  have forth := leads.isLE otherLeads.mem otherLeads.1 sameEpisode
  have back := otherLeads.isLE leads.mem leads.1 sameEpisode.symm
  -- they tie, so that none of them can stand behind the other
  have notBelow : other.1.compareUnder champion.1 keys ≠ .lt ∧
      champion.1.compareUnder other.1 keys ≠ .lt := by
    rw [Info.compareUnder_swap keys champion.1 other.1] at back ⊢
    cases order : other.1.compareUnder champion.1 keys <;> simp_all
  rcases leads with ⟨version, before, after, split, _, below⟩
  rcases otherLeads with ⟨otherVersion, otherBefore, otherAfter, otherSplit, _, otherBelow⟩
  rw [split] at otherSplit
  rcases exists_of_append_eq_middle otherSplit with
    ⟨rest, before_eq, rest_eq⟩ | ⟨rest, _, tail_eq⟩
  · have behind : champion.2 ∈ otherAfter := by simp [rest_eq]
    exact absurd (otherBelow champion.2 behind champion.1 version sameEpisode.symm) notBelow.2
  · rcases List.cons_eq_append_iff.mp tail_eq with ⟨_, same⟩ | ⟨others, _, after_eq⟩
    · injection same with same _
      rw [← same] at version
      exact Prod.ext (info_eq_of_isVersion otherVersion version) same
    · have behind : other.2 ∈ after := by simp [after_eq]
      exact absurd (below other.2 behind other.1 otherVersion sameEpisode) notBelow.1

/--
A champion of two pieces is one of its own piece, at
least what the first and above what the second has.
-/
theorem leads_append_iff :
    Leads keys (front ++ back) champion ↔
      (Leads keys front champion ∧ ∀ other ∈ back, ∀ info, other.IsVersion info →
        info.identity = champion.1.identity → info.compareUnder champion.1 keys = .lt) ∨
      (Leads keys back champion ∧ ∀ other ∈ front, ∀ info, other.IsVersion info →
        info.identity = champion.1.identity → (info.compareUnder champion.1 keys).isLE) := by
  constructor
  · rintro ⟨version, before, after, split, atMost, below⟩
    rcases exists_of_append_eq_middle split with
      ⟨rest, front_eq, rfl⟩ | ⟨rest, rfl, back_eq⟩
    · rw [List.forall_mem_append] at below
      exact Or.inl ⟨⟨version, before, rest, front_eq, atMost, below.1⟩, below.2⟩
    · rw [List.forall_mem_append] at atMost
      exact Or.inr ⟨⟨version, rest, after, back_eq, atMost.2, below⟩, atMost.1⟩
  · rintro (⟨⟨version, before, after, rfl, atMost, below⟩, backBelow⟩ |
      ⟨⟨version, before, after, rfl, atMost, below⟩, frontAtMost⟩)
    · refine ⟨version, before, after ++ back, by simp, atMost, ?_⟩
      exact List.forall_mem_append.mpr ⟨below, backBelow⟩
    · refine ⟨version, front ++ before, after, by simp, ?_, below⟩
      exact List.forall_mem_append.mpr ⟨frontAtMost, atMost⟩

theorem IsSelected.mem {entry : Entry} (selected : IsSelected keys entries entry) :
    entry ∈ entries := by
  rcases selected with ⟨entry_mem, _⟩ | ⟨_, leads⟩
  · exact entry_mem
  · exact leads.mem

/-- A selected version is the champion of its episode. -/
theorem IsSelected.leads {entry : Entry} (selected : IsSelected keys entries entry) {info : Info}
    (version : entry.IsVersion info) : Leads keys entries (info, entry) := by
  rcases selected with ⟨_, noVersion⟩ | ⟨other, leads⟩
  · exact absurd version (version?_eq_none_iff.mp noVersion info)
  · cases info_eq_of_isVersion version leads.1
    exact leads

/--
Where no two versions tie, a champion is above all others of its episode, wherever they stand.
-/
theorem leads_iff_of_no_ties {tieBreak : List String} (labels : InfoKey.AreLabels tieBreak)
    (nodup : entries.Nodup)
    (noTies : ∀ left ∈ entries, ∀ right ∈ entries, left.TiesInFull tieBreak right →
      left = right) :
    Leads (Info.tieBreakKeys tieBreak) entries champion ↔
      champion.2.IsVersion champion.1 ∧ champion.2 ∈ entries ∧
        ∀ other ∈ entries, other ≠ champion.2 → ∀ info, other.IsVersion info →
          info.identity = champion.1.identity →
            info.compareUnder champion.1 (Info.tieBreakKeys tieBreak) = .lt := by
  constructor
  · intro leads
    refine ⟨leads.1, leads.mem, ?_⟩
    intro other other_mem differs info version sameEpisode
    have atMost := leads.isLE other_mem version sameEpisode
    rcases Info.exists_compareBy_eq_ok labels info champion.1 with ⟨order, compared⟩
    rw [← Info.compareBy_eq_ok_of_identity_eq compared sameEpisode] at atMost ⊢
    cases order with
    | lt => rfl
    | eq =>
        have ties : other.TiesInFull tieBreak champion.2 :=
          ⟨info, champion.1, version, leads.1, sameEpisode, compared⟩
        exact absurd (noTies other other_mem champion.2 leads.mem ties) differs
    | gt => cases atMost
  · rintro ⟨version, champion_mem, below⟩
    rcases List.append_of_mem champion_mem with ⟨before, after, rfl⟩
    have alone := List.nodup_middle.mp nodup
    rw [List.nodup_cons, List.mem_append, not_or] at alone
    refine ⟨version, before, after, rfl, ?_, ?_⟩
    · intro other before_mem info otherVersion sameEpisode
      have differs : other ≠ champion.2 := fun same => alone.1.1 (same ▸ before_mem)
      rw [below other (by simp [before_mem]) differs info otherVersion sameEpisode]
      rfl
    · intro other after_mem info otherVersion sameEpisode
      have differs : other ≠ champion.2 := fun same => alone.1.2 (same ▸ after_mem)
      exact below other (by simp [after_mem]) differs info otherVersion sameEpisode

end Champions

/-- A list is the selection of some entries. -/
structure Selects (keys : List InfoKey) (entries selected : List Entry) : Prop where
  sorted : selected.Pairwise Precedes
  mem_iff : ∀ entry, entry ∈ selected ↔ IsSelected keys entries entry
  covers : ∀ entry ∈ entries, ∀ info, entry.IsVersion info →
    ∃ champion, Leads keys entries champion ∧ champion.1.identity = info.identity

namespace Selects

variable {keys : List InfoKey} {entries selected : List Entry}

theorem subset (selects : Selects keys entries selected) :
    selected ⊆ entries := fun entry entry_mem =>
  ((selects.mem_iff entry).mp entry_mem).mem

/-- What is selected depends on nothing but which entries are. -/
theorem eq_of_isSelected_iff {others otherSelected : List Entry}
    (selects : Selects keys entries selected) (otherSelects : Selects keys others otherSelected)
    (same : ∀ entry, IsSelected keys entries entry ↔ IsSelected keys others entry) :
    selected = otherSelected := by
  apply List.Perm.eq_of_pairwise _ selects.sorted otherSelects.sorted
  · rw [List.perm_ext_iff_of_nodup (nodup_of_sorted selects.sorted)
      (nodup_of_sorted otherSelects.sorted)]
    intro entry
    rw [selects.mem_iff, otherSelects.mem_iff, same]
  · intro left right _ _ forth back
    exact absurd back (precedes_asymm forth)

theorem mem_of_leads (selects : Selects keys entries selected) {champion : Info × Entry}
    (leads : Leads keys entries champion) : champion.2 ∈ selected :=
  (selects.mem_iff champion.2).mpr (Or.inr ⟨champion.1, leads⟩)

/-- Of every version there is a champion in the selection that is no less. -/
theorem exists_champion (selects : Selects keys entries selected) {entry : Entry}
    (entry_mem : entry ∈ entries) {info : Info} (version : entry.IsVersion info) :
    ∃ champion : Info × Entry, champion.2 ∈ selected ∧ champion.2.IsVersion champion.1 ∧
      champion.1.identity = info.identity ∧ (info.compareUnder champion.1 keys).isLE := by
  rcases selects.covers entry entry_mem info version with ⟨champion, leads, sameEpisode⟩
  exact ⟨champion, selects.mem_of_leads leads, leads.1, sameEpisode,
    leads.isLE entry_mem version sameEpisode.symm⟩

theorem leads_iff (selects : Selects keys entries selected) {champion : Info × Entry} :
    Leads keys selected champion ↔ Leads keys entries champion := by
  constructor
  · intro leads
    exact ((selects.mem_iff champion.2).mp leads.mem).leads leads.1
  · intro leads
    -- the selection has no other version of the episode, so that nothing is left to be compared
    have alone : ∀ other ∈ selected, ∀ info, other.IsVersion info →
        info.identity = champion.1.identity →
        (info, other) = champion := by
      intro other other_mem info version sameEpisode
      exact leads.unique (((selects.mem_iff other).mp other_mem).leads version) sameEpisode
    rcases List.append_of_mem (selects.mem_of_leads leads) with ⟨before, after, rfl⟩
    refine ⟨leads.1, before, after, rfl, ?_, ?_⟩
    · intro other before_mem info version sameEpisode
      have same := alone other (by simp [before_mem]) info version sameEpisode
      rw [← same]
      exact Info.isLE_compareUnder_iff.mpr (Or.inr fun key _ => rfl)
    · intro other after_mem info version sameEpisode
      have same := alone other (by simp [after_mem]) info version sameEpisode
      have nodup := List.nodup_middle.mp (nodup_of_sorted selects.sorted)
      rw [← same] at nodup
      exact absurd (List.mem_append_right before after_mem) (List.nodup_cons.mp nodup).1

/-- To be at least what the selection has is to be at least what there was. -/
theorem forall_isLE_iff (selects : Selects keys entries selected) {info : Info} :
    (∀ other ∈ selected, ∀ otherInfo, other.IsVersion otherInfo →
      otherInfo.identity = info.identity →
      (otherInfo.compareUnder info keys).isLE) ↔
    ∀ other ∈ entries, ∀ otherInfo, other.IsVersion otherInfo →
      otherInfo.identity = info.identity →
      (otherInfo.compareUnder info keys).isLE := by
  constructor
  · intro atMost other other_mem otherInfo version sameEpisode
    rcases selects.exists_champion other_mem version with
      ⟨champion, champion_mem, championVersion, same, below⟩
    exact Info.isLE_compareUnder_trans below
      (atMost champion.2 champion_mem champion.1 championVersion (same.trans sameEpisode))
  · intro atMost other other_mem
    exact atMost other (selects.subset other_mem)

/-- To be above what the selection has is to be above what there was. -/
theorem forall_lt_iff (selects : Selects keys entries selected) {info : Info} :
    (∀ other ∈ selected, ∀ otherInfo, other.IsVersion otherInfo →
      otherInfo.identity = info.identity →
      otherInfo.compareUnder info keys = .lt) ↔
    ∀ other ∈ entries, ∀ otherInfo, other.IsVersion otherInfo →
      otherInfo.identity = info.identity →
      otherInfo.compareUnder info keys = .lt := by
  constructor
  · intro isBelow other other_mem otherInfo version sameEpisode
    rcases selects.exists_champion other_mem version with
      ⟨champion, champion_mem, championVersion, same, below⟩
    exact Info.compareUnder_eq_lt_of_isLE_of_lt below
      (isBelow champion.2 champion_mem champion.1 championVersion (same.trans sameEpisode))
  · intro isBelow other other_mem
    exact isBelow other (selects.subset other_mem)

/-- The selection has every entry that is no version. -/
theorem mem_and_noVersion_iff (selects : Selects keys entries selected) {entry : Entry} :
    entry ∈ selected ∧ entry.version? = none ↔
      entry ∈ entries ∧ entry.version? = none := by
  constructor
  · rintro ⟨entry_mem, noVersion⟩
    exact ⟨selects.subset entry_mem, noVersion⟩
  · rintro ⟨entry_mem, noVersion⟩
    exact ⟨(selects.mem_iff entry).mpr (Or.inl ⟨entry_mem, noVersion⟩), noVersion⟩

variable {front back selectedFront selectedBack : List Entry}

theorem isSelected_append_left_iff (selects : Selects keys front selectedFront) (entry : Entry) :
    IsSelected keys (selectedFront ++ back) entry ↔ IsSelected keys (front ++ back) entry := by
  simp only [IsSelected, List.mem_append, or_and_right, selects.mem_and_noVersion_iff,
    leads_append_iff, selects.leads_iff, selects.forall_isLE_iff]

theorem isSelected_append_right_iff (selects : Selects keys back selectedBack) (entry : Entry) :
    IsSelected keys (front ++ selectedBack) entry ↔ IsSelected keys (front ++ back) entry := by
  simp only [IsSelected, List.mem_append, or_and_right, selects.mem_and_noVersion_iff,
    leads_append_iff, selects.leads_iff, selects.forall_lt_iff]

end Selects

end Entry

theorem Versions.Summarizes.mem_kept_iff_isSelected {keys : List InfoKey} {versions : Versions}
    {seen : List Entry} (summary : Summarizes keys versions seen) (entry : Entry) :
    entry ∈ versions.kept ↔ Entry.IsSelected keys seen entry := by
  simp only [kept, List.mem_append, List.mem_map, summary.others_eq, List.mem_filter,
    Option.isNone_iff_eq_none, Entry.IsSelected]
  apply or_congr_right
  constructor
  · rintro ⟨champion, champion_mem, rfl⟩
    exact ⟨champion.1, summary.leads champion champion_mem⟩
  · rintro ⟨info, leads⟩
    rcases summary.covers entry leads.mem info leads.1 with
      ⟨champion, champion_mem, sameEpisode⟩
    have same := leads.unique (summary.leads champion champion_mem) sameEpisode
    exact ⟨champion, champion_mem, congrArg Prod.snd same⟩

/-- Of entries with distinct numbers, in any order, what is selected is a selection. -/
theorem exists_selects {tieBreak : List String} (labels : InfoKey.AreLabels tieBreak)
    {entries : List Entry} (numbers : Entry.HaveDistinctNumbers entries) :
    ∃ selected, (selectBest tieBreak entries).outcome = .ok selected ∧
      Entry.Selects (Info.tieBreakKeys tieBreak) entries selected := by
  rcases exists_selectBest_eq_ok labels numbers.numbered with ⟨selected, done⟩
  rcases Logged.outcome_bind_eq_ok_iff.mp done with ⟨versions, added, sortedKept⟩
  have summary := (Versions.Summarizes.empty (Info.tieBreakKeys tieBreak)).addAll added
  rw [List.nil_append] at summary
  rcases sortByNumber_eq_ok sortedKept with ⟨perm, ordered⟩
  have mem_iff : ∀ entry, entry ∈ selected ↔
      Entry.IsSelected (Info.tieBreakKeys tieBreak) entries entry := by
    intro entry
    rw [perm.mem_iff, summary.mem_kept_iff_isSelected]
  have nodup := perm.nodup_iff.mpr (summary.kept_nodup numbers.nodup)
  refine ⟨selected, done, ?sorted, mem_iff, ?covers⟩
  case sorted =>
    apply (ordered.and nodup).imp_of_mem
    intro left right left_mem right_mem differ
    rcases numbers.precedes_or_precedes ((mem_iff left).mp left_mem).mem
      ((mem_iff right).mp right_mem).mem differ.2 with forth | back
    · exact forth
    · exact absurd back differ.1
  case covers =>
    intro entry entry_mem info version
    rcases summary.covers entry entry_mem info version with
      ⟨champion, champion_mem, sameEpisode⟩
    exact ⟨champion, summary.leads champion champion_mem, sameEpisode⟩

/--
Of entries with distinct numbers the same is selected whether it is done at once, or either end of
the list is replaced by its own selection before. And as long as no two versions of an episode tie
in full, their order plays no part.
-/
theorem selectBest_piecewise {tieBreak : List String} {front back : List Entry}
    (labels : InfoKey.AreLabels tieBreak) (numbers : Entry.HaveDistinctNumbers (front ++ back)) :
    ∃ selectedFront selectedBack selected,
      (selectBest tieBreak front).outcome = .ok selectedFront ∧
      (selectBest tieBreak back).outcome = .ok selectedBack ∧
      (selectBest tieBreak (front ++ back)).outcome = .ok selected ∧
      (selectBest tieBreak (selectedFront ++ back)).outcome = .ok selected ∧
      (selectBest tieBreak (front ++ selectedBack)).outcome = .ok selected ∧
      ∀ others : List Entry, others.Perm front →
        (∀ left ∈ front, ∀ right ∈ front, left.TiesInFull tieBreak right →
          left = right) →
        (selectBest tieBreak others).outcome = .ok selectedFront := by
  rcases exists_selects labels numbers.left with ⟨selectedFront, doneFront, selectsFront⟩
  rcases exists_selects labels numbers.right with ⟨selectedBack, doneBack, selectsBack⟩
  rcases exists_selects labels numbers with ⟨selected, done, selects⟩
  have frontNumbers := numbers.left.of_sorted selectsFront.sorted selectsFront.subset
  have backNumbers := numbers.right.of_sorted selectsBack.sorted selectsBack.subset
  refine ⟨selectedFront, selectedBack, selected, doneFront, doneBack, done, ?fromFront,
    ?fromBack, ?permuted⟩
  case fromFront =>
    have still :=
      numbers.append frontNumbers numbers.right selectsFront.subset (List.Subset.refl back)
    rcases exists_selects labels still with ⟨again, doneAgain, selectsAgain⟩
    rw [doneAgain,
      selectsAgain.eq_of_isSelected_iff selects selectsFront.isSelected_append_left_iff]
  case fromBack =>
    have still :=
      numbers.append numbers.left backNumbers (List.Subset.refl front) selectsBack.subset
    rcases exists_selects labels still with ⟨again, doneAgain, selectsAgain⟩
    rw [doneAgain,
      selectsAgain.eq_of_isSelected_iff selects selectsBack.isSelected_append_right_iff]
  case permuted =>
    intro others perm noTies
    have noTiesOfOthers : ∀ left ∈ others, ∀ right ∈ others,
        left.TiesInFull tieBreak right → left = right := by
      intro left left_mem right right_mem
      exact noTies left (perm.mem_iff.mp left_mem) right (perm.mem_iff.mp right_mem)
    have otherNumbers := numbers.left.perm perm
    rcases exists_selects labels otherNumbers with ⟨again, doneAgain, selectsAgain⟩
    rw [doneAgain, selectsAgain.eq_of_isSelected_iff selectsFront]
    intro entry
    simp only [Entry.IsSelected,
      Entry.leads_iff_of_no_ties labels otherNumbers.nodup noTiesOfOthers,
      Entry.leads_iff_of_no_ties labels numbers.left.nodup noTies, perm.mem_iff]

namespace TieAtSeam

def version (id ep res ver : Int) : Entry :=
  { id := some id, info := some { name := some "Show", ep, endep := ep, ver, res } }

def plain : Entry :=
  { id := some 7 }

/-- The selection of these changes places: the champion has the greatest number. -/
def front : List Entry :=
  [version 9 1 1080 1, version 2 1 720 2, plain]

/-- The first of these ties with the champion of the front, and comes later. -/
def back : List Entry :=
  [version 4 1 1080 1, version 1 2 480 1]

theorem areLabels : InfoKey.AreLabels ["res", "ver"] := by
  refine List.forall_mem_cons.mpr ⟨⟨.res, by decide⟩, ?_⟩
  exact List.forall_mem_cons.mpr ⟨⟨.ver, by decide⟩, List.forall_mem_nil _⟩

theorem haveDistinctNumbers : Entry.HaveDistinctNumbers (front ++ back) where
  numbered := by decide
  distinct := by decide

/-- In the front no two resolutions are the same, and the resolution is the first key. -/
theorem noTies :
    ∀ left ∈ front, ∀ right ∈ front, left.TiesInFull ["res", "ver"] right →
      left = right := by
  have apart : ∀ left ∈ front, ∀ right ∈ front,
      left.info.map (·.res) = right.info.map (·.res) → left = right := by decide
  rintro left left_mem right right_mem ⟨leftInfo, rightInfo, leftVersion, rightVersion, _, ties⟩
  rw [Info.compareBy_of_areLabels areLabels, Except.ok.injEq, Info.compareUnder_eq_eq_iff] at ties
  have sameRes : InfoValue.number leftInfo.res = .number rightInfo.res := ties .res (by decide)
  apply apart left left_mem right right_mem
  rw [leftVersion.1, rightVersion.1, Option.map_some, Option.map_some, InfoValue.number.inj sameRes]

theorem selectBest_piecewise_of_tieAtSeam :
    InfoKey.AreLabels ["res", "ver"] ∧ Entry.HaveDistinctNumbers (front ++ back) ∧
    ∃ selected,
      (selectBest ["res", "ver"] (front ++ back)).outcome = .ok selected ∧
      (selectBest ["res", "ver"] ([plain, version 9 1 1080 1] ++ back)).outcome = .ok selected ∧
      (selectBest ["res", "ver"] (front ++ [version 1 2 480 1, version 4 1 1080 1])).outcome =
        .ok selected ∧
      (selectBest ["res", "ver"] [plain, version 2 1 720 2, version 9 1 1080 1]).outcome =
        .ok [plain, version 9 1 1080 1] := by
  rcases selectBest_piecewise areLabels haveDistinctNumbers with
    ⟨selectedFront, selectedBack, selected, doneFront, doneBack, done, fromFront,
      fromBack, permuted⟩
  have front_eq : (selectBest ["res", "ver"] front).outcome = .ok [plain, version 9 1 1080 1]  := by
    cbv
  have back_eq : (selectBest ["res", "ver"] back).outcome =
      .ok [version 1 2 480 1, version 4 1 1080 1]  := by
    cbv
  rw [front_eq, Except.ok.injEq] at doneFront
  rw [back_eq, Except.ok.injEq] at doneBack
  subst doneFront doneBack
  exact ⟨areLabels, haveDistinctNumbers, selected, done, fromFront, fromBack,
    permuted _ (by decide) noTies⟩

end TieAtSeam

end ReleaseWatch
