import ReleaseWatch.Feed.State

/-!
# Entries by category

Every category keeps a bucket of its entries. Adding an entry puts it at the end of the bucket of
its category and makes that bucket if there is none; no other bucket is touched. So adding entries
one after the other adds to each bucket those of its category, in their order, and no category
comes to have two buckets.
-/

namespace ReleaseWatch

namespace FeedState

/-- The bucket of a category, which is empty if there is none. -/
def bucket (categories : List (String × List NumberedEntry)) (name : String) :
    List NumberedEntry :=
  (categories.lookup name).getD []

/-- The categories that have a bucket. -/
def categoryNames (categories : List (String × List NumberedEntry)) : List String :=
  categories.map (·.1)

variable {categories : List (String × List NumberedEntry)}

theorem bucket_addToCategory (categories : List (String × List NumberedEntry))
    (added : NumberedEntry) (name : String) :
    bucket (addToCategory categories added) name =
      bucket categories name ++ [added].filter (·.entry.category = name) := by
  induction categories with
  | nil =>
      by_cases same : added.entry.category = name
      · simp [addToCategory, bucket, same]
      · simp [addToCategory, bucket, List.lookup_cons, same, beq_false_of_ne (Ne.symm same)]
  | cons first rest ih =>
      obtain ⟨firstName, firstEntries⟩ := first
      rw [addToCategory]
      by_cases found : firstName = added.entry.category
      · subst found
        by_cases same : added.entry.category = name
        · simp [bucket, same]
        · simp [bucket, List.lookup_cons, same, beq_false_of_ne (Ne.symm same)]
      · rw [if_neg found]
        by_cases here : firstName = name
        · subst here
          simp [bucket, Ne.symm found]
        · simpa [bucket, List.lookup_cons, beq_false_of_ne (Ne.symm here)] using ih

/-- Adding entries one after the other adds to a bucket those of its category, in their order. -/
theorem bucket_foldl_addToCategory (categories : List (String × List NumberedEntry))
    (added : List NumberedEntry) (name : String) :
    bucket (added.foldl addToCategory categories) name =
      bucket categories name ++ added.filter (·.entry.category = name) := by
  induction added generalizing categories with
  | nil => simp
  | cons first rest ih =>
      rw [List.foldl_cons, ih, bucket_addToCategory, List.append_assoc, ← List.filter_append]
      rfl

theorem mem_categoryNames_addToCategory {added : NumberedEntry} {name : String} :
    name ∈ categoryNames (addToCategory categories added) ↔
      name ∈ categoryNames categories ∨ added.entry.category = name := by
  induction categories with
  | nil => simp [addToCategory, categoryNames, eq_comm]
  | cons first rest ih =>
      obtain ⟨firstName, firstEntries⟩ := first
      simp only [categoryNames] at ih
      rw [addToCategory]
      split
      · rename_i found
        subst found
        simp only [categoryNames, List.map_cons, List.mem_cons]
        grind
      · simp only [categoryNames, List.map_cons, List.mem_cons, ih]
        grind

theorem mem_categoryNames_foldl_addToCategory {added : List NumberedEntry} {name : String} :
    name ∈ categoryNames (added.foldl addToCategory categories) ↔
      name ∈ categoryNames categories ∨ ∃ entry ∈ added, entry.entry.category = name := by
  induction added generalizing categories with
  | nil => simp
  | cons first rest ih =>
      rw [List.foldl_cons, ih, mem_categoryNames_addToCategory]
      simp [or_assoc]

theorem categoryNames_nodup_addToCategory (nodup : (categoryNames categories).Nodup)
    (added : NumberedEntry) :
    (categoryNames (addToCategory categories added)).Nodup := by
  induction categories with
  | nil => simp [addToCategory, categoryNames]
  | cons first rest ih =>
      obtain ⟨firstName, firstEntries⟩ := first
      rw [addToCategory]
      split
      · exact nodup
      · rename_i other
        simp only [categoryNames, List.map_cons, List.nodup_cons] at nodup ⊢
        refine ⟨?_, ih nodup.2⟩
        intro again
        rcases mem_categoryNames_addToCategory.mp again with old | new
        · exact nodup.1 old
        · exact other new.symm

theorem categoryNames_nodup_foldl_addToCategory (nodup : (categoryNames categories).Nodup)
    (added : List NumberedEntry) :
    (categoryNames (added.foldl addToCategory categories)).Nodup := by
  induction added generalizing categories with
  | nil => exact nodup
  | cons first rest ih => exact ih (categoryNames_nodup_addToCategory nodup first)

end FeedState

end ReleaseWatch
