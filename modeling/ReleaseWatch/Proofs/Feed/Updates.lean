import Mathlib
import ReleaseWatch.Proofs.Feed.Consistency

/-!
# What a run of updates stores

A fresh feed state that is updated with one batch of items after the other stores a number exactly
if the number was above all those seen in earlier batches when it came up. Late low numbers are
lost, and of several items of one number in a batch the first one counts.

The watermark is known from the stored numbers; here it is shown to be that of all
numbers ever seen. This is what makes one update depend on the batches before it through
nothing but their numbers.
-/

namespace ReleaseWatch

/-- The numbers that can be read from items. -/
def numbersOf (items : List Item) : List Int :=
  items.filterMap (·.number?)

theorem numbersOf_append (items others : List Item) :
    numbersOf (items ++ others) = numbersOf items ++ numbersOf others :=
  List.filterMap_append

theorem Item.number?_nonneg {item : Item} {number : Int} (read : item.number? = some number) :
    0 ≤ number := by
  simp only [Item.number?, guidNumber] at read
  split at read
  · rename_i number' guid_eq
    subst read
    split at guid_eq
    · cases guid_eq
    · split at guid_eq
      · cases guid_eq
      · cases guid_eq
        omega
  · cases read

theorem nonneg_of_mem_numbersOf {items : List Item} {number : Int}
    (number_mem : number ∈ numbersOf items) : 0 ≤ number := by
  rcases List.mem_filterMap.mp number_mem with ⟨item, _, read⟩
  exact Item.number?_nonneg read

/-- An entry is the one that the first item of its number makes. -/
def FirstAmong (items : List Item) (found : NumberedEntry) : Prop :=
  ∃ item, items.find? (·.number? == some found.number) = some item ∧
    item.extractNumbered = .ok found

/--
An entry comes from the first item of its number in some
batch, and all numbers of the batches before are smaller.
-/
def FirstSeen (batches : List (List Item)) (found : NumberedEntry) : Prop :=
  ∃ before batch after, batches = before ++ batch :: after ∧ FirstAmong batch found ∧
    ∀ earlier ∈ numbersOf before.flatten, earlier < found.number

theorem exists_firstAmong {items : List Item} {number : Int}
    (number_mem : number ∈ numbersOf items) :
    ∃ item, items.find? (·.number? == some number) = some item ∧
      FirstAmong items (item.numbered number) := by
  rcases List.mem_filterMap.mp number_mem with ⟨item, item_mem, read⟩
  cases found : items.find? (·.number? == some number) with
  | none =>
      have unread := List.find?_eq_none.mp found item item_mem
      simp [read] at unread
  | some first =>
      have first_read : first.number? = some number := by simpa using List.find?_some found
      exact ⟨first, rfl, first, found,
        Item.extractNumbered_eq_ok_iff.mpr ⟨number, first_read, rfl⟩⟩

theorem FirstAmong.number_mem {items : List Item} {found : NumberedEntry}
    (first : FirstAmong items found) : found.number ∈ numbersOf items := by
  rcases first with ⟨item, item_found, _⟩
  exact List.mem_filterMap.mpr ⟨item, List.mem_of_find?_eq_some item_found,
    by simpa using List.find?_some item_found⟩

/-- A further batch adds the entries of the first items whose numbers are above all before. -/
theorem firstSeen_concat {batches : List (List Item)} {batch : List Item} {found : NumberedEntry} :
    FirstSeen (batches ++ [batch]) found ↔
      FirstSeen batches found ∨
        (FirstAmong batch found ∧ ∀ earlier ∈ numbersOf batches.flatten,
          earlier < found.number) := by
  constructor
  · rintro ⟨before, middle, after, split, first, above⟩
    rcases List.eq_nil_or_concat after with rfl | ⟨others, last, rfl⟩
    · rcases List.append_inj' split rfl with ⟨rfl, same⟩
      cases same
      exact Or.inr ⟨first, above⟩
    · left
      rw [List.concat_eq_append] at split
      rw [← List.cons_append, ← List.append_assoc] at split
      rcases List.append_inj' split rfl with ⟨rfl, _⟩
      exact ⟨before, middle, others, rfl, first, above⟩
  · rintro (⟨before, middle, after, rfl, first, above⟩ | ⟨first, above⟩)
    · exact ⟨before, middle, after ++ [batch], by simp, first, above⟩
    · exact ⟨batches, batch, [], rfl, first, above⟩

namespace FeedState

/--
Updates with batches one after the other, and what
each of them returned; the first failure ends them.
-/
def updates (state : FeedState) :
    List (List Item) → Except Failure (FeedState × List (List NumberedEntry))
  | [] => .ok (state, [])
  | batch :: rest =>
      let (reached, staging) := state.update batch
      match staging.outcome with
      | .error failure => .error failure
      | .ok added =>
          (reached.updates rest).map fun (final, returned) => (final, added :: returned)

theorem updates_append (state : FeedState) (batches others : List (List Item)) :
    state.updates (batches ++ others) =
      (state.updates batches).bind fun (reached, returned) =>
        (reached.updates others).map fun (final, further) => (final, returned ++ further) := by
  induction batches generalizing state with
  | nil =>
      simp only [List.nil_append, updates, Outcome.bind_ok]
      cases state.updates others <;> rfl
  | cons batch rest ih =>
      simp only [List.cons_append, updates]
      cases (state.update batch).2.outcome with
      | error failure => rfl
      | ok added =>
          simp only [ih]
          cases (state.update batch).1.updates rest with
          | error failure => rfl
          | ok reached =>
              simp only [Outcome.bind_ok, Except.map]
              cases reached.1.updates others <;> rfl

theorem updates_concat_eq_ok_iff {state final : FeedState} {batches : List (List Item)}
    {batch : List Item} {returned : List (List NumberedEntry)} :
    state.updates (batches ++ [batch]) = .ok (final, returned) ↔
      ∃ reached before added, state.updates batches = .ok (reached, before) ∧
        (reached.stage batch).outcome = .ok added ∧ final = reached.commit added ∧
        returned = before ++ [added] := by
  rw [updates_append, Outcome.bind_eq_ok_iff]
  constructor
  · rintro ⟨⟨reached, before⟩, ran, last⟩
    rcases Outcome.map_eq_ok_iff.mp last with ⟨⟨final', further⟩, updated, same⟩
    cases same
    simp only [updates, update] at updated
    cases staging : (reached.stage batch).outcome with
    | error failure => simp [staging] at updated
    | ok added =>
        simp only [staging, Except.map, Except.ok.injEq, Prod.mk.injEq] at updated
        rcases updated with ⟨rfl, rfl⟩
        exact ⟨reached, before, added, ran, staging, rfl, rfl⟩
  · rintro ⟨reached, before, added, ran, staging, rfl, rfl⟩
    refine ⟨(reached, before), ran, ?_⟩
    simp only [updates, update, staging, Except.map]

theorem newAmong_of_stage {state : FeedState} {items : List Item} {staged : List NumberedEntry}
    (staging : (state.stage items).outcome = .ok staged) : state.newAmong staged = staged := by
  rw [newAmong, List.filter_eq_self]
  intro entry entry_mem
  simpa using watermark_lt_of_mem_stage staging entry_mem

/-- An update stores what it staged behind everything that was stored before. -/
theorem commit_entries_of_stage {state : FeedState} (consistent : state.Consistent)
    {items : List Item} {staged : List NumberedEntry}
    (staging : (state.stage items).outcome = .ok staged) :
    (state.commit staged).entries = state.entries ++ staged := by
  rw [commit_entries_of_sorted consistent (stage_strictlySorted staging), newAmong_of_stage staging]

/-- No number of a batch is above the watermark after the update with it. -/
theorem le_commit_watermark_of_stage {state : FeedState} {items : List Item}
    {staged : List NumberedEntry} (staging : (state.stage items).outcome = .ok staged)
    {number : Int}
    (number_mem : number ∈ numbersOf items) : number ≤ (state.commit staged).watermark := by
  by_cases above : state.watermark < number
  · rcases exists_firstAmong number_mem with ⟨item, _, first⟩
    exact number_le_commit_watermark state ((mem_stage_iff staging _).mpr ⟨above, first⟩)
  · have kept := state.watermark_le_commit staged
    omega

/-- Everything that a feed state needs to know of the batches that it was updated with. -/
structure Remembers (state : FeedState) (batches : List (List Item)) : Prop where
  strictlyConsistent : state.StrictlyConsistent
  mem_entries_iff : ∀ found, found ∈ state.entries ↔ FirstSeen batches found
  isWatermark : IsWatermark (numbersOf batches.flatten) state.watermark

namespace Remembers

theorem initial : Remembers {} [] where
  strictlyConsistent := .initial
  mem_entries_iff := by simp [FirstSeen]
  isWatermark := Or.inl ⟨rfl, rfl⟩

variable {state : FeedState} {batches : List (List Item)} {batch : List Item}
  {staged : List NumberedEntry}

/-- The entries that are new to a state are those whose numbers are above all that it remembers. -/
theorem mem_stage_iff (remembers : state.Remembers batches)
    (staging : (state.stage batch).outcome = .ok staged) (found : NumberedEntry) :
    found ∈ staged ↔
      FirstAmong batch found ∧ ∀ earlier ∈ numbersOf batches.flatten,
        earlier < found.number := by
  rw [FeedState.mem_stage_iff staging]
  constructor
  · rintro ⟨above, first⟩
    have nonneg := nonneg_of_mem_numbersOf (FirstAmong.number_mem first)
    exact ⟨first, (remembers.isWatermark.lt_iff nonneg).mp above⟩
  · rintro ⟨first, above⟩
    have nonneg := nonneg_of_mem_numbersOf first.number_mem
    exact ⟨(remembers.isWatermark.lt_iff nonneg).mpr above, first⟩

theorem commit (remembers : state.Remembers batches)
    (staging : (state.stage batch).outcome = .ok staged) :
    (state.commit staged).Remembers (batches ++ [batch]) where
  strictlyConsistent := remembers.strictlyConsistent.commit (stage_strictlySorted staging)
  mem_entries_iff := by
    intro found
    rw [commit_entries_of_stage remembers.strictlyConsistent.toConsistent staging,
      List.mem_append, remembers.mem_entries_iff, remembers.mem_stage_iff staging, firstSeen_concat]
  isWatermark := by
    have numbers := isWatermark_greatestNumber remembers.isWatermark
      (fun entry (entry_mem : entry ∈ state.newAmong staged) =>
        watermark_lt_of_mem_newAmong entry_mem)
    have bounded : ∀ number ∈ numbersOf batch,
        0 ≤ number ∧ number ≤ (state.commit staged).watermark := by
      intro number number_mem
      exact ⟨nonneg_of_mem_numbersOf number_mem,
        le_commit_watermark_of_stage staging number_mem⟩
    -- the numbers of staged entries are among those of the batch, so nothing is counted that was
    -- not seen
    have stagedSeen : ∀ entry ∈ staged, entry.number ∈ numbersOf batch := by
      intro entry entry_mem
      exact FirstAmong.number_mem ((FeedState.mem_stage_iff staging entry).mp entry_mem).2
    apply (numbers.append_of_le bounded).of_mem_iff
    intro number
    rw [newAmong_of_stage staging, List.flatten_concat, numbersOf_append]
    simp only [List.mem_append, List.mem_map]
    constructor
    · rintro ((seen | ⟨entry, entry_mem, rfl⟩) | latest)
      · exact Or.inl seen
      · exact Or.inr (stagedSeen entry entry_mem)
      · exact Or.inr latest
    · rintro (seen | latest)
      · exact Or.inl (Or.inl seen)
      · exact Or.inr latest

end Remembers

theorem remembers_of_updates {batches : List (List Item)} {state : FeedState}
    {returned : List (List NumberedEntry)}
    (ran : ({} : FeedState).updates batches = .ok (state, returned)) : state.Remembers batches := by
  induction batches using List.reverseRecOn generalizing state returned with
  | nil =>
      cases ran
      exact .initial
  | append_singleton batches batch ih =>
      rcases updates_concat_eq_ok_iff.mp ran with
        ⟨reached, before, added, ran', staging, rfl, rfl⟩
      exact (ih ran').commit staging

theorem length_returned_of_updates {batches : List (List Item)} {state final : FeedState}
    {returned : List (List NumberedEntry)}
    (ran : state.updates batches = .ok (final, returned)) : returned.length = batches.length := by
  induction batches using List.reverseRecOn generalizing final returned with
  | nil =>
      cases ran
      rfl
  | append_singleton batches batch ih =>
      rcases updates_concat_eq_ok_iff.mp ran with
        ⟨reached, before, added, ran', staging, rfl, rfl⟩
      simp [ih ran']

/-- One of many updates: what it returned is what it added to the entries before. -/
theorem exists_update_of_updates {before after : List (List Item)} {batch : List Item}
    {state : FeedState} {returned : List (List NumberedEntry)}
    (ran : ({} : FeedState).updates (before ++ batch :: after) = .ok (state, returned)) :
    ∃ earlier earlierReturned added laterReturned,
      ({} : FeedState).updates before = .ok (earlier, earlierReturned) ∧
      (earlier.update batch).2.outcome = .ok added ∧
      returned = earlierReturned ++ added :: laterReturned ∧
      earlierReturned.length = before.length ∧
      (earlier.update batch).1.entries = earlier.entries ++ added ∧
      added.Pairwise NumberedEntry.Precedes := by
  rw [List.append_cons, updates_append] at ran
  rcases Outcome.bind_eq_ok_iff.mp ran with ⟨⟨reached, soFar⟩, ran', rest⟩
  rcases Outcome.map_eq_ok_iff.mp rest with ⟨⟨final, laterReturned⟩, _, same⟩
  cases same
  rcases updates_concat_eq_ok_iff.mp ran' with
    ⟨earlier, earlierReturned, added, ranBefore, staging, rfl, rfl⟩
  have consistent := (remembers_of_updates ranBefore).strictlyConsistent.toConsistent
  refine ⟨earlier, earlierReturned, added, laterReturned, ranBefore, ?_, by simp,
    length_returned_of_updates ranBefore, ?_, stage_strictlySorted staging⟩
  · simp only [update, staging]
  · rw [update_of_stage staging, commit_entries_of_stage consistent staging]

/-- In a strictly sorted list every number has one entry. -/
theorem filter_number_eq_singleton {entries : List NumberedEntry}
    (sorted : entries.Pairwise NumberedEntry.Precedes) {found : NumberedEntry}
    (found_mem : found ∈ entries) : entries.filter (·.number = found.number) = [found] := by
  induction entries with
  | nil => simp at found_mem
  | cons first rest ih =>
      rw [List.pairwise_cons] at sorted
      rcases List.mem_cons.mp found_mem with rfl | rest_mem
      · rw [List.filter_cons_of_pos (by simp), List.filter_eq_nil_iff.mpr]
        intro other other_mem
        have precedes := sorted.1 other other_mem
        simp only [NumberedEntry.Precedes] at precedes
        simp
        omega
      · have precedes := sorted.1 found rest_mem
        simp only [NumberedEntry.Precedes] at precedes
        rw [List.filter_cons_of_neg (by simp; omega)]
        exact ih sorted.2 rest_mem

theorem commit_nil {state : FeedState} (ascending : Ascending state.entries) :
    state.commit [] = { state with previousWatermark := state.watermark } := by
  simp [commit, greatestNumber, sortNumbered_of_ascending ascending]

/-- A batch without a number above the watermark is staged as nothing. -/
theorem stage_eq_nil_of_le {state : FeedState} {items : List Item} {staged : List NumberedEntry}
    (staging : (state.stage items).outcome = .ok staged)
    (known : ∀ number ∈ numbersOf items, number ≤ state.watermark) : staged = [] := by
  rw [List.eq_nil_iff_forall_not_mem]
  intro found found_mem
  rcases (mem_stage_iff staging found).mp found_mem with ⟨above, first⟩
  have atMost := known found.number (FirstAmong.number_mem first)
  omega

/--
After updates of a fresh state without a failure, a number is stored exactly if it is above
all numbers of the batches before one that it occurs in, and then once, with the entry of the
first such item of that batch. Every update returned what it added, and the watermark is that
of all numbers seen. A further batch of numbers at the watermark or below changes nothing but
the previous watermark.
-/
theorem updates_store_firstSeen {batches : List (List Item)} {state : FeedState}
    {returned : List (List NumberedEntry)}
    (ran : ({} : FeedState).updates batches = .ok (state, returned)) :
    (∀ number, (∃ stored ∈ state.entries, stored.number = number) ↔
      ∃ before batch after, batches = before ++ batch :: after ∧ number ∈ numbersOf batch ∧
        ∀ earlier ∈ numbersOf before.flatten, earlier < number) ∧
    (∀ before batch after item number, batches = before ++ batch :: after →
      (∀ earlier ∈ numbersOf before.flatten, earlier < number) →
      batch.find? (·.number? == some number) = some item →
      ∃ stored, item.extractNumbered = .ok stored ∧
        state.entries.filter (·.number = number) = [stored]) ∧
    (∀ before batch after, batches = before ++ batch :: after →
      ∃ earlier earlierReturned added laterReturned,
        ({} : FeedState).updates before = .ok (earlier, earlierReturned) ∧
        (earlier.update batch).2.outcome = .ok added ∧
        returned = earlierReturned ++ added :: laterReturned ∧
        earlierReturned.length = before.length ∧
        (earlier.update batch).1.entries = earlier.entries ++ added ∧
        added.Pairwise NumberedEntry.Precedes) ∧
    IsWatermark (numbersOf batches.flatten) state.watermark ∧
    (∀ batch added, (∀ number ∈ numbersOf batch, number ≤ state.watermark) →
      (state.update batch).2.outcome = .ok added →
      added = [] ∧ (state.update batch).1 = { state with previousWatermark :=
        state.watermark }) := by
  have remembers := remembers_of_updates ran
  refine ⟨?_, ?_, ?_, remembers.isWatermark, ?_⟩
  · intro number
    constructor
    · rintro ⟨stored, stored_mem, rfl⟩
      rcases (remembers.mem_entries_iff stored).mp stored_mem with
        ⟨before, batch, after, split, first, above⟩
      exact ⟨before, batch, after, split, first.number_mem, above⟩
    · rintro ⟨before, batch, after, split, number_mem, above⟩
      rcases exists_firstAmong number_mem with ⟨item, _, first⟩
      have stored_mem := (remembers.mem_entries_iff (item.numbered number)).mpr
        ⟨before, batch, after, split, first, above⟩
      exact ⟨item.numbered number, stored_mem, rfl⟩
  · intro before batch after item number split above found
    have read : item.number? = some number := by simpa using List.find?_some found
    have extracted := Item.extractNumbered_eq_ok_iff.mpr ⟨number, read, rfl⟩
    have stored_mem := (remembers.mem_entries_iff (item.numbered number)).mpr
      ⟨before, batch, after, split, ⟨item, found, extracted⟩, above⟩
    exact ⟨item.numbered number, extracted,
      filter_number_eq_singleton remembers.strictlyConsistent.strictlySorted stored_mem⟩
  · rintro before batch after rfl
    exact exists_update_of_updates ran
  · intro batch added known updated
    have staging : (state.stage batch).outcome = .ok added := by
      cases staging : (state.stage batch).outcome with
      | error failure => simp [update, staging] at updated
      | ok staged => simpa [update, staging] using updated
    have nothing := stage_eq_nil_of_le staging known
    subst nothing
    refine ⟨rfl, ?_⟩
    rw [update_of_stage staging, commit_nil remembers.strictlyConsistent.ascending]

end FeedState

namespace LateLowNumbers

/-- The first of two items of one number. -/
def first : Item :=
  { title := some "first", guid := some "id=5" }

/-- The greatest item. -/
def last : Item :=
  { guid := some "id=7" }

/-- Two items of one number, and then a low number that comes too late. -/
def batches : List (List Item) :=
  [[first, { title := some "second", guid := some "id=5" }], [{ guid := some "id=4" }, last]]

/-- The state after both batches. -/
def reached : FeedState where
  entries := [first.numbered 5, last.numbered 7]
  watermark := 7
  previousWatermark := 5
  categories := [("", [first.numbered 5, last.numbered 7])]

/-- The low number is lost, and of the two items of one number the first is stored. -/
theorem updates_store_firstSeen_of_lateLowNumbers :
    ({} : FeedState).updates batches = .ok (reached, [[first.numbered 5], [last.numbered 7]]) ∧
    (∀ number, (∃ stored ∈ reached.entries, stored.number = number) ↔
      ∃ before batch after, batches = before ++ batch :: after ∧ number ∈ numbersOf batch ∧
        ∀ earlier ∈ numbersOf before.flatten, earlier < number) ∧
    IsWatermark (numbersOf batches.flatten) 7 := by
  have ran : ({} : FeedState).updates batches =
      .ok (reached, [[first.numbered 5], [last.numbered 7]]) := by cbv
  rcases FeedState.updates_store_firstSeen ran with ⟨stored_iff, _, _, isWatermark, _⟩
  exact ⟨ran, stored_iff, isWatermark⟩

end LateLowNumbers

end ReleaseWatch
