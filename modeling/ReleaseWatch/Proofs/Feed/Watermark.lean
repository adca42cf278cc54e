import ReleaseWatch.Feed.State

/-!
# The watermark

A commit never lowers the watermark, and no entry that was handed to it is left above. What a
commit does to the watermark is all that later refreshes see of the entries that were stored.

`IsWatermark` says what a watermark is of any numbers, be they those of the stored entries or
those of all items that were ever seen.
-/

namespace ReleaseWatch

/-- The watermark of some numbers is the greatest of them, or -1 without any. -/
def IsWatermark (numbers : List Int) (watermark : Int) : Prop :=
  (numbers = [] ∧ watermark = -1) ∨
    (watermark ∈ numbers ∧ ∀ number ∈ numbers, number ≤ watermark)

namespace IsWatermark

variable {numbers others : List Int} {watermark : Int}

theorem le (isWatermark : IsWatermark numbers watermark) {number : Int}
    (number_mem : number ∈ numbers) : number ≤ watermark := by
  rcases isWatermark with ⟨rfl, _⟩ | ⟨_, greatest⟩
  · simp at number_mem
  · exact greatest number number_mem

/-- A number that is not negative is above the watermark exactly if it is above all numbers. -/
theorem lt_iff (isWatermark : IsWatermark numbers watermark) {number : Int}
    (nonneg : 0 ≤ number) :
    watermark < number ↔ ∀ known ∈ numbers, known < number := by
  constructor
  · intro above known known_mem
    have known_le := isWatermark.le known_mem
    omega
  · intro above
    rcases isWatermark with ⟨_, rfl⟩ | ⟨watermark_mem, _⟩
    · omega
    · exact above watermark watermark_mem

theorem of_mem_iff (isWatermark : IsWatermark numbers watermark)
    (sameMembers : ∀ number, number ∈ numbers ↔ number ∈ others) :
    IsWatermark others watermark := by
  rcases isWatermark with ⟨rfl, rfl⟩ | ⟨watermark_mem, greatest⟩
  · left
    refine ⟨List.eq_nil_iff_forall_not_mem.mpr ?_, rfl⟩
    intro number other_mem
    exact absurd ((sameMembers number).mpr other_mem) (by simp)
  · right
    refine ⟨(sameMembers watermark).mp watermark_mem, ?_⟩
    intro number other_mem
    exact greatest number ((sameMembers number).mpr other_mem)

/--
Numbers at the watermark or below leave it as it is, provided that there was one to begin with.
-/
theorem append_of_le (isWatermark : IsWatermark numbers watermark)
    (below : ∀ number ∈ others, 0 ≤ number ∧ number ≤ watermark) :
    IsWatermark (numbers ++ others) watermark := by
  rcases isWatermark with ⟨rfl, rfl⟩ | ⟨watermark_mem, greatest⟩
  · left
    refine ⟨?_, rfl⟩
    rw [List.nil_append, List.eq_nil_iff_forall_not_mem]
    intro number other_mem
    have bounds := below number other_mem
    omega
  · right
    refine ⟨by simp [watermark_mem], ?_⟩
    intro number number_mem
    rcases List.mem_append.mp number_mem with known | other
    · exact greatest number known
    · exact (below number other).2

end IsWatermark

namespace FeedState

theorem le_foldl_max {start bound : Int} {entries : List NumberedEntry}
    (below : bound ≤ start ∨ ∃ entry ∈ entries, bound ≤ entry.number) :
    bound ≤ entries.foldl (fun greatest entry => max greatest entry.number) start := by
  induction entries generalizing start with
  | nil => simpa using below
  | cons entry rest ih =>
      rw [List.foldl_cons]
      apply ih
      rcases below with start_above | ⟨other, other_mem, above⟩
      · left
        omega
      · rcases List.mem_cons.mp other_mem with rfl | rest_mem
        · left
          omega
        · exact Or.inr ⟨other, rest_mem, above⟩

theorem number_le_greatestNumber (fallback : Int) {entries : List NumberedEntry}
    {entry : NumberedEntry} (entry_mem : entry ∈ entries) :
    entry.number ≤ greatestNumber fallback entries := by
  cases entries with
  | nil => simp at entry_mem
  | cons first rest =>
      apply le_foldl_max
      rcases List.mem_cons.mp entry_mem with rfl | rest_mem
      · exact Or.inl (Int.le_refl _)
      · exact Or.inr ⟨entry, rest_mem, Int.le_refl _⟩

theorem exists_number_eq_foldl_max (start : Int) (entries : List NumberedEntry) :
    entries.foldl (fun greatest entry => max greatest entry.number) start = start ∨
      ∃ entry ∈ entries,
        entry.number = entries.foldl (fun greatest entry => max greatest entry.number) start := by
  induction entries generalizing start with
  | nil => exact Or.inl rfl
  | cons entry rest ih =>
      rw [List.foldl_cons]
      rcases ih (max start entry.number) with kept | ⟨other, other_mem, greatest⟩
      · rw [kept]
        rcases Int.le_total entry.number start with below | above
        · exact Or.inl (Int.max_eq_left below)
        · exact Or.inr ⟨entry, by simp, (Int.max_eq_right above).symm⟩
      · exact Or.inr ⟨other, by simp [other_mem], greatest⟩

theorem exists_number_eq_greatestNumber (fallback : Int) {entries : List NumberedEntry}
    (found : entries ≠ []) :
    ∃ entry ∈ entries, entry.number = greatestNumber fallback entries := by
  cases entries with
  | nil => exact absurd rfl found
  | cons first rest =>
      rcases exists_number_eq_foldl_max first.number rest with
        kept | ⟨entry, entry_mem, greatest⟩
      · exact ⟨first, by simp, kept.symm⟩
      · exact ⟨entry, by simp [entry_mem], greatest⟩

/-- The greatest of new numbers above a watermark is the watermark of the old and the new ones. -/
theorem isWatermark_greatestNumber {numbers : List Int} {watermark : Int}
    (isWatermark : IsWatermark numbers watermark) {added : List NumberedEntry}
    (above : ∀ entry ∈ added, watermark < entry.number) :
    IsWatermark (numbers ++ added.map (·.number)) (greatestNumber watermark added) := by
  cases added with
  | nil => simpa [greatestNumber] using isWatermark
  | cons first rest =>
      right
      rcases exists_number_eq_greatestNumber watermark (List.cons_ne_nil first rest) with
        ⟨greatest, greatest_mem, greatest_eq⟩
      rw [← greatest_eq]
      refine ⟨List.mem_append_right _ (List.mem_map_of_mem greatest_mem), ?_⟩
      intro number number_mem
      rcases List.mem_append.mp number_mem with known | new
      · have known_le := isWatermark.le known
        have greatest_above := above greatest greatest_mem
        omega
      · rcases List.mem_map.mp new with ⟨entry, entry_mem, rfl⟩
        rw [greatest_eq]
        exact number_le_greatestNumber watermark entry_mem

theorem watermark_le_commit (state : FeedState) (staged : List NumberedEntry) :
    state.watermark ≤ (state.commit staged).watermark := by
  simp only [commit]
  cases added : staged.filter fun entry => decide (state.watermark < entry.number) with
  | nil => exact Int.le_refl _
  | cons first rest =>
      have first_mem : first ∈ staged.filter fun entry =>
          decide (state.watermark < entry.number) := by
        simp [added]
      have above : state.watermark < first.number := by
        simpa using (List.mem_filter.mp first_mem).2
      have below : first.number ≤ greatestNumber state.watermark (first :: rest) :=
        number_le_greatestNumber state.watermark (by simp)
      omega

/-- After a commit, all of its entries are at the watermark or below. -/
theorem number_le_commit_watermark (state : FeedState) {staged : List NumberedEntry}
    {entry : NumberedEntry} (entry_mem : entry ∈ staged) :
    entry.number ≤ (state.commit staged).watermark := by
  by_cases above : state.watermark < entry.number
  · apply number_le_greatestNumber
    simp [entry_mem, above]
  · have kept := state.watermark_le_commit staged
    omega

end FeedState

end ReleaseWatch
