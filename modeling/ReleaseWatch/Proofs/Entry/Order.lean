import ReleaseWatch.Entry.Basic

/-!
# The order of entries

Entries are ordered by their numbers; one without a number comes neither before nor behind any
other. In a list that is strictly sorted in this order no entry occurs twice, and any two of its
entries can be compared.
-/

namespace ReleaseWatch

namespace Entry

/-- An entry comes before another one by number. -/
def Precedes (left right : Entry) : Prop :=
  ∃ leftNumber rightNumber, left.id = some leftNumber ∧ right.id = some rightNumber ∧
    leftNumber < rightNumber

theorem precedes_irrefl (entry : Entry) : ¬entry.Precedes entry := by
  rintro ⟨number, number', same, same', less⟩
  rw [same] at same'
  cases same'
  omega

theorem precedes_asymm {left right : Entry} (forth : left.Precedes right) :
    ¬right.Precedes left := by
  rcases forth with ⟨leftNumber, rightNumber, leftSame, rightSame, less⟩
  rintro ⟨rightNumber', leftNumber', rightSame', leftSame', less'⟩
  rw [leftSame] at leftSame'
  rw [rightSame] at rightSame'
  cases leftSame'
  cases rightSame'
  omega

/-- Of two members of a strictly sorted list one comes first, unless they are the same. -/
theorem eq_or_precedes_of_mem {entries : List Entry} (sorted : entries.Pairwise Precedes)
    {left right : Entry} (left_mem : left ∈ entries) (right_mem : right ∈ entries) :
    left = right ∨ left.Precedes right ∨ right.Precedes left := by
  induction entries with
  | nil => simp at left_mem
  | cons first rest ih =>
      rw [List.pairwise_cons] at sorted
      rcases List.mem_cons.mp left_mem with rfl | left_rest
      · rcases List.mem_cons.mp right_mem with rfl | right_rest
        · exact Or.inl rfl
        · exact Or.inr (Or.inl (sorted.1 right right_rest))
      · rcases List.mem_cons.mp right_mem with rfl | right_rest
        · exact Or.inr (Or.inr (sorted.1 left left_rest))
        · exact ih sorted.2 left_rest right_rest

theorem nodup_of_sorted {entries : List Entry} (sorted : entries.Pairwise Precedes) :
    entries.Nodup := by
  apply sorted.imp
  intro left right precedes same
  subst same
  exact precedes_irrefl left precedes

theorem exists_increasing_numbers {entries : List Entry} (sorted : entries.Pairwise Precedes)
    (numbered : ∀ entry ∈ entries, ∃ number, entry.id = some number) :
    ∃ numbers : List Int, entries.map (·.id) = numbers.map some ∧
      numbers.Pairwise (· < ·) := by
  induction entries with
  | nil => exact ⟨[], rfl, .nil⟩
  | cons entry rest ih =>
      rw [List.pairwise_cons] at sorted
      rw [List.forall_mem_cons] at numbered
      rcases numbered with ⟨⟨number, entry_id⟩, restNumbered⟩
      rcases ih sorted.2 restNumbered with ⟨numbers, ids_eq, increasing⟩
      refine ⟨number :: numbers, by simp [entry_id, ids_eq], ?_⟩
      rw [List.pairwise_cons]
      refine ⟨?_, increasing⟩
      intro other other_mem
      have other_id : some other ∈ rest.map (·.id) := by
        rw [ids_eq]
        exact List.mem_map_of_mem other_mem
      rcases List.mem_map.mp other_id with ⟨found, found_mem, found_id⟩
      rcases sorted.1 found found_mem with ⟨number', other', same, same', less⟩
      rw [entry_id] at same
      rw [found_id] at same'
      cases same
      cases same'
      exact less

end Entry

end ReleaseWatch
