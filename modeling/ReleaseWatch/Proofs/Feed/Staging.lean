import ReleaseWatch.Feed.State
import ReleaseWatch.Proofs.Outcome

/-!
# What staging finds

Staging goes through the items of a feed and keeps what is new. This file says what that comes to
without following the items one by one: if every number can be read, the staged entries are
exactly those that the first item of each number above the watermark makes, strictly sorted by
number; if a numeral is too long, staging fails, whatever the other items are.

A strictly sorted list is determined by its members. That is why two lists of items in which every
number has the same first item are staged alike, however their items are ordered otherwise.
-/

namespace ReleaseWatch

namespace NumberedEntry

/-- The order of staged entries. -/
def Precedes (left right : NumberedEntry) : Prop :=
  left.number < right.number

end NumberedEntry

namespace Item

/-- The number that can be read from the guid of an item. -/
def number? (item : Item) : Option Int :=
  match guidNumber item.plainGuid with
  | .ok number => number
  | .error _ => none

/-- Whether the guid of an item holds no numeral that is too long to be read. -/
def IsReadable (item : Item) : Prop :=
  ∃ number, guidNumber item.plainGuid = .ok number

theorem toEntry_id (item : Item) (number : Option Int) : (item.toEntry number).id = number := rfl

/-- The entry of an item, together with the number that was read from its guid. -/
def numbered (item : Item) (number : Int) : NumberedEntry :=
  { entry := item.toEntry (some number), number, id_eq := item.toEntry_id (some number) }

@[simp]
theorem numbered_number (item : Item) (number : Int) : (item.numbered number).number = number := rfl

theorem guidNumber_of_not_isReadable {item : Item} (unreadable : ¬item.IsReadable) :
    guidNumber item.plainGuid = .error .numeralTooLong := by
  simp only [IsReadable, guidNumber] at unreadable ⊢
  split
  · rename_i notFound
    simp [notFound] at unreadable
  · rename_i digits found
    split
    · rfl
    · rename_i number read
      simp [found, read] at unreadable

/-- Extraction gives the entry under the number of the item, and nothing without one. -/
theorem extractNumbered_eq_ok_iff {item : Item} {found : NumberedEntry} :
    item.extractNumbered = .ok found ↔
      ∃ number, item.number? = some number ∧ found = item.numbered number := by
  simp only [extractNumbered, number?]
  cases guidNumber item.plainGuid with
  | error failure => simp
  | ok number =>
      cases number with
      | none => simp
      | some number => simp [numbered, eq_comm]

end Item

namespace FeedState

/--
An entry is new if its number is above the watermark and the first item of that number makes it.
-/
def IsNew (state : FeedState) (items : List Item) (found : NumberedEntry) : Prop :=
  state.watermark < found.number ∧
    ∃ item, items.find? (·.number? == some found.number) = some item ∧
      item.extractNumbered = .ok found

/-- What is staged after one more item, if that item can be read. -/
def stagedWith (state : FeedState) (staged : List NumberedEntry) (item : Item) :
    List NumberedEntry :=
  match item.number? with
  | none => staged
  | some number =>
      if state.watermark < number ∧ ¬ staged.any (·.number == number) then
        staged ++ [item.numbered number]
      else staged

theorem stageItem_of_isReadable (state : FeedState) (staged : List NumberedEntry) {item : Item}
    (readable : item.IsReadable) :
    (state.stageItem staged item).outcome = .ok (state.stagedWith staged item) := by
  rcases readable with ⟨number, read⟩
  simp only [stageItem, stagedWith, Item.extractNumbered, Item.number?, read]
  cases number with
  | none => simp
  | some number =>
      simp only [Item.numbered]
      split
      · rfl
      · rfl

theorem stageItem_of_not_isReadable (state : FeedState) (staged : List NumberedEntry)
    {item : Item} (unreadable : ¬item.IsReadable) :
    (state.stageItem staged item).outcome = .error .numeralTooLong := by
  have tooLong := Item.guidNumber_of_not_isReadable unreadable
  simp [stageItem, Item.extractNumbered, tooLong]

theorem stageFrom_of_isReadable (state : FeedState) (staged : List NumberedEntry)
    {items : List Item} (readable : ∀ item ∈ items, item.IsReadable) :
    (state.stageFrom staged items).outcome = .ok (items.foldl state.stagedWith staged) := by
  induction items generalizing staged with
  | nil => simp [stageFrom]
  | cons item rest ih =>
      have first := state.stageItem_of_isReadable staged (readable item (by simp))
      rw [stageFrom, Logged.outcome_bind, first]
      exact ih _ (fun other other_mem => readable other (by simp [other_mem]))

/-- One numeral that is too long fails the staging of all items. -/
theorem stageFrom_of_not_isReadable (state : FeedState) (staged : List NumberedEntry)
    {items : List Item} (unreadable : ¬∀ item ∈ items, item.IsReadable) :
    (state.stageFrom staged items).outcome = .error .numeralTooLong := by
  induction items generalizing staged with
  | nil => simp at unreadable
  | cons item rest ih =>
      rw [stageFrom, Logged.outcome_bind]
      by_cases readable : item.IsReadable
      · rw [state.stageItem_of_isReadable staged readable]
        apply ih
        intro restReadable
        apply unreadable
        simpa [readable] using restReadable
      · rw [state.stageItem_of_not_isReadable staged readable]
        rfl

/-- Of several items with one number the first decides. -/
theorem isNew_cons_of_eq {state : FeedState} {item : Item} {rest : List Item}
    {found : NumberedEntry} (same : item.number? = some found.number) :
    state.IsNew (item :: rest) found ↔
      state.watermark < found.number ∧ found = item.numbered found.number := by
  simp [IsNew, same, Item.extractNumbered_eq_ok_iff]

theorem isNew_cons_of_ne {state : FeedState} {item : Item} {rest : List Item}
    {found : NumberedEntry} (other : item.number? ≠ some found.number) :
    state.IsNew (item :: rest) found ↔ state.IsNew rest found := by
  simp [IsNew, beq_false_of_ne other]

/-- The members of the fold are what was staged before and the first new entry of each number. -/
theorem mem_foldl_stagedWith_iff (state : FeedState) (items : List Item)
    (staged : List NumberedEntry) (found : NumberedEntry) :
    found ∈ items.foldl state.stagedWith staged ↔
      found ∈ staged ∨
        (¬staged.any (·.number == found.number) ∧ state.IsNew items found) := by
  induction items generalizing staged with
  | nil => simp [IsNew]
  | cons item rest ih =>
      rw [List.foldl_cons, ih]
      -- only an item with the number of the entry can put it in, or keep a later one out
      by_cases same : item.number? = some found.number
      · rw [isNew_cons_of_eq same]
        simp only [stagedWith, same]
        split
        · rename_i fresh
          simp [fresh]
        · rename_i notFresh
          constructor
          · rintro (mem | ⟨unstaged, above, _⟩)
            · exact Or.inl mem
            · exact absurd ⟨above, unstaged⟩ notFresh
          · rintro (mem | ⟨unstaged, above, _⟩)
            · exact Or.inl mem
            · exact absurd ⟨above, unstaged⟩ notFresh
      · rw [isNew_cons_of_ne same]
        simp only [stagedWith]
        split
        · rfl
        · rename_i number itemNumber
          split
          · have differs : number ≠ found.number := by
              intro equal
              exact same (by rw [itemNumber, equal])
            have other : found ≠ item.numbered number := by
              intro equal
              exact differs (by rw [equal]; rfl)
            simp [differs, other]
          · rfl

theorem numbers_nodup_foldl_stagedWith (state : FeedState) (items : List Item)
    {staged : List NumberedEntry} (nodup : (staged.map (·.number)).Nodup) :
    ((items.foldl state.stagedWith staged).map (·.number)).Nodup := by
  induction items generalizing staged with
  | nil => simpa using nodup
  | cons item rest ih =>
      rw [List.foldl_cons]
      apply ih
      simp only [stagedWith]
      split
      · exact nodup
      · split
        · rename_i number _ fresh
          have unstaged : number ∉ staged.map (·.number) := by
            simpa [List.mem_map] using fresh.2
          rw [List.map_append, List.nodup_append]
          refine ⟨nodup, by simp, ?_⟩
          intro old old_mem new new_mem
          simp only [List.map_cons, List.map_nil, Item.numbered_number,
            List.mem_singleton] at new_mem
          subst new_mem
          intro equal
          exact unstaged (equal ▸ old_mem)
        · exact nodup

end FeedState

theorem mem_sortNumbered_iff {entries : List NumberedEntry} {entry : NumberedEntry} :
    entry ∈ sortNumbered entries ↔ entry ∈ entries := by
  simp [sortNumbered]

theorem sortNumbered_perm (entries : List NumberedEntry) :
    (sortNumbered entries).Perm entries :=
  List.mergeSort_perm entries _

theorem sortNumbered_sorted (entries : List NumberedEntry) :
    (sortNumbered entries).Pairwise fun left right => left.number ≤ right.number := by
  have trans : ∀ first second third : NumberedEntry, decide (first.number ≤ second.number) →
      decide (second.number ≤ third.number) → decide (first.number ≤ third.number) := by
    intro first second third
    simp only [decide_eq_true_eq]
    omega
  have total : ∀ first second : NumberedEntry,
      decide (first.number ≤ second.number) || decide (second.number ≤ first.number) := by
    intro first second
    simp only [Bool.or_eq_true, decide_eq_true_eq]
    omega
  have sorted := List.pairwise_mergeSort trans total entries
  simpa [sortNumbered] using sorted

theorem sortNumbered_strictlySorted {entries : List NumberedEntry}
    (nodup : (entries.map (·.number)).Nodup) :
    (sortNumbered entries).Pairwise NumberedEntry.Precedes := by
  have sortedNodup : ((sortNumbered entries).map (·.number)).Nodup :=
    ((sortNumbered_perm entries).map _).nodup_iff.mpr nodup
  rw [List.Nodup, List.pairwise_map] at sortedNodup
  apply ((sortNumbered_sorted entries).and sortedNodup).imp
  intro left right ordered
  simp only [NumberedEntry.Precedes]
  omega

/-- Strictly sorted lists of the same members are the same list. -/
theorem eq_of_strictlySorted {left right : List NumberedEntry}
    (leftSorted : left.Pairwise NumberedEntry.Precedes)
    (rightSorted : right.Pairwise NumberedEntry.Precedes)
    (sameMembers : ∀ entry, entry ∈ left ↔ entry ∈ right) : left = right := by
  have nodup_of_sorted : ∀ {entries : List NumberedEntry},
      entries.Pairwise NumberedEntry.Precedes → entries.Nodup := by
    intro entries sorted
    apply sorted.imp
    intro first second precedes equal
    subst equal
    exact absurd precedes (Int.lt_irrefl _)
  apply List.Perm.eq_of_pairwise _ leftSorted rightSorted
  · exact (List.perm_ext_iff_of_nodup (nodup_of_sorted leftSorted)
      (nodup_of_sorted rightSorted)).mpr sameMembers
  · intro first second _ _ forth back
    simp only [NumberedEntry.Precedes] at forth back
    omega

namespace FeedState

theorem stage_of_isReadable (state : FeedState) {items : List Item}
    (readable : ∀ item ∈ items, item.IsReadable) :
    (state.stage items).outcome = .ok (sortNumbered (items.foldl state.stagedWith [])) := by
  rw [stage, Logged.outcome_bind, state.stageFrom_of_isReadable [] readable]
  rfl

theorem stage_of_not_isReadable (state : FeedState) {items : List Item}
    (unreadable : ¬∀ item ∈ items, item.IsReadable) :
    (state.stage items).outcome = .error .numeralTooLong := by
  rw [stage, Logged.outcome_bind, state.stageFrom_of_not_isReadable [] unreadable]
  rfl

theorem isReadable_of_stage {state : FeedState} {items : List Item}
    {staged : List NumberedEntry} (done : (state.stage items).outcome = .ok staged) :
    ∀ item ∈ items, item.IsReadable := by
  by_cases readable : ∀ item ∈ items, item.IsReadable
  · exact readable
  · rw [state.stage_of_not_isReadable readable] at done
    cases done

/-- The staged entries are exactly the new ones. -/
theorem mem_stage_iff {state : FeedState} {items : List Item} {staged : List NumberedEntry}
    (done : (state.stage items).outcome = .ok staged) (found : NumberedEntry) :
    found ∈ staged ↔ state.IsNew items found := by
  rw [state.stage_of_isReadable (isReadable_of_stage done)] at done
  cases done
  rw [mem_sortNumbered_iff, mem_foldl_stagedWith_iff]
  simp

theorem stage_strictlySorted {state : FeedState} {items : List Item}
    {staged : List NumberedEntry} (done : (state.stage items).outcome = .ok staged) :
    staged.Pairwise NumberedEntry.Precedes := by
  rw [state.stage_of_isReadable (isReadable_of_stage done)] at done
  cases done
  apply sortNumbered_strictlySorted
  apply state.numbers_nodup_foldl_stagedWith items
  simp

theorem watermark_lt_of_mem_stage {state : FeedState} {items : List Item}
    {staged : List NumberedEntry} (done : (state.stage items).outcome = .ok staged)
    {found : NumberedEntry} (found_mem : found ∈ staged) :
    state.watermark < found.number :=
  ((mem_stage_iff done found).mp found_mem).1

theorem update_of_stage {state : FeedState} {items : List Item} {staged : List NumberedEntry}
    (staging : (state.stage items).outcome = .ok staged) :
    (state.update items).1 = state.commit staged := by
  simp only [update, staging]

end FeedState

end ReleaseWatch
