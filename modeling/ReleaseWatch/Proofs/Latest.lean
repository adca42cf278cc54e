import Mathlib.Tactic.Push

/-!
# The latest of several results

Items are tried in order, each gives a result or gives none, and every result takes the place of
the one before. What is left is what the latest item gives that gives anything.
-/

namespace ReleaseWatch

/--
What the latest of several items gives that gives anything, or what there was before if none does.
-/
def IsLatest {Item Result : Type} (gives : Item → Result → Prop) (before : Result)
    (items : List Item) (result : Result) : Prop :=
  (∃ earlier item later, items = earlier ++ item :: later ∧ gives item result ∧
    ∀ other ∈ later, ∀ given, ¬gives other given) ∨
  (∀ item ∈ items, ∀ given, ¬gives item given) ∧ result = before

namespace IsLatest

variable {Item Result : Type} {gives : Item → Result → Prop} {before given result : Result}
    {item : Item} {rest : List Item}

theorem nil (before : Result) : IsLatest gives before [] before :=
  Or.inr ⟨by simp, rfl⟩

theorem cons_of_gives (first : gives item given) (latest : IsLatest gives given rest result) :
    IsLatest gives before (item :: rest) result := by
  left
  rcases latest with ⟨earlier, last, later, rfl, isGiven, noLater⟩ | ⟨noLater, rfl⟩
  · exact ⟨item :: earlier, last, later, rfl, isGiven, noLater⟩
  · exact ⟨[], item, rest, rfl, first, noLater⟩

theorem cons_of_not_gives (silent : ∀ given, ¬gives item given)
    (latest : IsLatest gives before rest result) :
    IsLatest gives before (item :: rest) result := by
  rcases latest with ⟨earlier, last, later, rfl, isGiven, noLater⟩ | ⟨noLater, rfl⟩
  · exact Or.inl ⟨item :: earlier, last, later, rfl, isGiven, noLater⟩
  · exact Or.inr ⟨List.forall_mem_cons.mpr ⟨silent, noLater⟩, rfl⟩

/--
The latest result is what the rest gives, behind what the first item gives if it gives anything.
-/
theorem cons_cases (latest : IsLatest gives before (item :: rest) result) :
    (∃ given, gives item given ∧ IsLatest gives given rest result) ∨
      (∀ given, ¬gives item given) ∧ IsLatest gives before rest result := by
  by_cases silent : ∀ given, ¬gives item given
  · right
    rcases latest with ⟨earlier, last, later, split, isGiven, noLater⟩ | ⟨noLater, same⟩
    · cases earlier with
      | nil =>
          cases split
          exact absurd isGiven (silent result)
      | cons first earlier =>
          cases split
          exact ⟨silent, Or.inl ⟨earlier, last, later, rfl, isGiven, noLater⟩⟩
    · exact ⟨silent, Or.inr ⟨(List.forall_mem_cons.mp noLater).2, same⟩⟩
  · left
    push Not at silent
    rcases latest with ⟨earlier, last, later, split, isGiven, noLater⟩ | ⟨noLater, same⟩
    · cases earlier with
      | nil =>
          cases split
          exact ⟨result, isGiven, Or.inr ⟨noLater, rfl⟩⟩
      | cons first earlier =>
          cases split
          rcases silent with ⟨given, first⟩
          exact ⟨given, first, Or.inl ⟨earlier, last, later, rfl, isGiven, noLater⟩⟩
    · rcases silent with ⟨given, first⟩
      exact absurd first ((List.forall_mem_cons.mp noLater).1 given)

/-- If no item gives two results, there is one latest result. -/
theorem unique {items : List Item} {other : Result}
    (functional : ∀ item first second, gives item first → gives item second → first = second)
    (latest : IsLatest gives before items result) (latest' : IsLatest gives before items other) :
    result = other := by
  induction items generalizing before with
  | nil =>
      rcases latest with ⟨earlier, _, _, never, _⟩ | ⟨_, rfl⟩
      · simp at never
      rcases latest' with ⟨earlier, _, _, never, _⟩ | ⟨_, rfl⟩
      · simp at never
      rfl
  | cons item rest ih =>
      rcases latest.cons_cases with ⟨given, first, latest⟩ | ⟨silent, latest⟩
      · rcases latest'.cons_cases with ⟨given', first', latest'⟩ | ⟨silent, _⟩
        · cases functional item given given' first first'
          exact ih latest latest'
        · exact absurd first (silent given)
      · rcases latest'.cons_cases with ⟨given', first', _⟩ | ⟨_, latest'⟩
        · exact absurd first' (silent given')
        · exact ih latest latest'

end IsLatest

end ReleaseWatch
