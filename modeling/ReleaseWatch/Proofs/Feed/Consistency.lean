import ReleaseWatch.Proofs.Feed.Category
import ReleaseWatch.Proofs.Feed.Staging
import ReleaseWatch.Proofs.Feed.Watermark

/-!
# The parts of a feed state agree

A feed state keeps its entries three times: as a sorted list, as a watermark, and by category.
`FeedState.Consistent` says how these belong together. A commit keeps them so whatever list it is
given. When the list is one that some staging returned, however long ago, the numbers are distinct
as well, and the buckets are in the order of the entries: what is left of such a list above the
watermark is sorted and comes behind everything stored.
-/

namespace ReleaseWatch

/-- Entries in the order of their numbers, in which a number may occur more than once. -/
def Ascending (entries : List NumberedEntry) : Prop :=
  entries.Pairwise fun left right => left.number ≤ right.number

theorem ascending_of_strictlySorted {entries : List NumberedEntry}
    (sorted : entries.Pairwise NumberedEntry.Precedes) : Ascending entries :=
  sorted.imp Int.le_of_lt

theorem sortNumbered_of_ascending {entries : List NumberedEntry} (ascending : Ascending entries) :
    sortNumbered entries = entries := by
  apply List.mergeSort_of_pairwise
  apply ascending.imp
  intro left right below
  simpa using below

namespace FeedState

/-- The entries of a category among all entries that are stored. -/
def inCategory (state : FeedState) (name : String) : List NumberedEntry :=
  state.entries.filter (·.entry.category = name)

/-- What always holds of the parts of a feed state. -/
structure Consistent (state : FeedState) : Prop where
  ascending : Ascending state.entries
  isWatermark : IsWatermark (state.entries.map (·.number)) state.watermark
  previous_le : state.previousWatermark ≤ state.watermark
  categories_nodup : (categoryNames state.categories).Nodup
  mem_categories_iff : ∀ name, name ∈ categoryNames state.categories ↔
    ∃ stored ∈ state.entries, stored.entry.category = name
  bucket_perm : ∀ name, (bucket state.categories name).Perm (state.inCategory name)

/-- What holds besides if only staged lists are committed. -/
structure StrictlyConsistent (state : FeedState) : Prop extends Consistent state where
  strictlySorted : state.entries.Pairwise NumberedEntry.Precedes
  bucket_eq : ∀ name, bucket state.categories name = state.inCategory name

/-- The entries that a commit stores. -/
def newAmong (state : FeedState) (staged : List NumberedEntry) : List NumberedEntry :=
  staged.filter fun entry => state.watermark < entry.number

theorem watermark_lt_of_mem_newAmong {state : FeedState} {staged : List NumberedEntry}
    {entry : NumberedEntry} (entry_mem : entry ∈ state.newAmong staged) :
    state.watermark < entry.number := by
  simpa using (List.mem_filter.mp entry_mem).2

theorem commit_entries_perm (state : FeedState) (staged : List NumberedEntry) :
    (state.commit staged).entries.Perm (state.entries ++ state.newAmong staged) :=
  sortNumbered_perm _

@[simp]
theorem commit_previousWatermark (state : FeedState) (staged : List NumberedEntry) :
    (state.commit staged).previousWatermark = state.watermark := rfl

theorem commit_categories (state : FeedState) (staged : List NumberedEntry) :
    (state.commit staged).categories =
      (state.newAmong staged).foldl addToCategory state.categories := rfl

theorem commit_bucket (state : FeedState) (staged : List NumberedEntry) (name : String) :
    bucket (state.commit staged).categories name =
      bucket state.categories name ++ (state.newAmong staged).filter (·.entry.category = name) :=
  bucket_foldl_addToCategory _ _ name

namespace Consistent

variable {state : FeedState}

theorem initial : Consistent {} where
  ascending := .nil
  isWatermark := Or.inl ⟨rfl, rfl⟩
  previous_le := Int.le_refl _
  categories_nodup := .nil
  mem_categories_iff := by simp [categoryNames]
  bucket_perm := fun _ => .refl _

theorem commit (consistent : state.Consistent) (staged : List NumberedEntry) :
    (state.commit staged).Consistent where
  ascending := sortNumbered_sorted _
  isWatermark := by
    have numbers := isWatermark_greatestNumber consistent.isWatermark
      (fun entry (entry_mem : entry ∈ state.newAmong staged) =>
        watermark_lt_of_mem_newAmong entry_mem)
    apply numbers.of_mem_iff
    intro number
    rw [← List.map_append]
    exact ((state.commit_entries_perm staged).map _).mem_iff.symm
  previous_le := state.watermark_le_commit staged
  categories_nodup := categoryNames_nodup_foldl_addToCategory consistent.categories_nodup _
  mem_categories_iff := by
    intro name
    rw [commit_categories, mem_categoryNames_foldl_addToCategory, consistent.mem_categories_iff]
    simp only [(state.commit_entries_perm staged).mem_iff, List.mem_append, or_and_right, exists_or]
  bucket_perm := by
    intro name
    have parts := (consistent.bucket_perm name).append_right
      ((state.newAmong staged).filter (·.entry.category = name))
    rw [commit_bucket]
    apply parts.trans
    rw [inCategory, ← List.filter_append]
    exact ((state.commit_entries_perm staged).filter _).symm

end Consistent

theorem Consistent.stored_precedes_new {state : FeedState} (consistent : state.Consistent)
    {staged : List NumberedEntry} {stored added : NumberedEntry}
    (stored_mem : stored ∈ state.entries) (added_mem : added ∈ state.newAmong staged) :
    stored.Precedes added := by
  have atMost := consistent.isWatermark.le (List.mem_map_of_mem stored_mem)
  have above := watermark_lt_of_mem_newAmong added_mem
  simp only [NumberedEntry.Precedes]
  omega

/-- What is new in a sorted list comes behind everything stored. -/
theorem commit_entries_of_sorted {state : FeedState} (consistent : state.Consistent)
    {staged : List NumberedEntry} (sorted : staged.Pairwise NumberedEntry.Precedes) :
    (state.commit staged).entries = state.entries ++ state.newAmong staged := by
  apply sortNumbered_of_ascending
  apply List.pairwise_append.mpr
  refine ⟨consistent.ascending, ascending_of_strictlySorted (sorted.filter _), ?_⟩
  intro stored stored_mem added added_mem
  exact Int.le_of_lt (consistent.stored_precedes_new stored_mem added_mem)

namespace StrictlyConsistent

variable {state : FeedState}

theorem initial : StrictlyConsistent {} where
  toConsistent := .initial
  strictlySorted := .nil
  bucket_eq := fun _ => rfl

theorem commit (strict : state.StrictlyConsistent) {staged : List NumberedEntry}
    (sorted : staged.Pairwise NumberedEntry.Precedes) :
    (state.commit staged).StrictlyConsistent where
  toConsistent := strict.toConsistent.commit staged
  strictlySorted := by
    rw [commit_entries_of_sorted strict.toConsistent sorted, List.pairwise_append]
    refine ⟨strict.strictlySorted, sorted.filter _, ?_⟩
    intro stored stored_mem added added_mem
    exact strict.stored_precedes_new stored_mem added_mem
  bucket_eq := by
    intro name
    rw [commit_bucket, strict.bucket_eq, inCategory, inCategory, ← List.filter_append,
      commit_entries_of_sorted strict.toConsistent sorted]

end StrictlyConsistent

end FeedState

end ReleaseWatch
