import Mathlib
import ReleaseWatch.Proofs.Macro.CallGraph

/-!
# Names that remain

An expansion keeps a key only if it names no definition, and it replaces every other one by what
the definition of that name stands for. So no name of a definition remains in the result, with
one exception. A definition that is a text stands for a whole rule, which consists of a title
pattern; this title is a selector and is not looked up again, also where there happens to be a
definition called `title`.
-/

namespace ReleaseWatch

namespace Mapping

variable {definitions fields rest body : Mapping} {key name : Scalar} {value : Value}

/-- A mapping calls a definition that is a text, itself or through other definitions. -/
def ReachesText (definitions fields : Mapping) : Prop :=
  ∃ name pattern, definitions.Reaches fields name ∧
    definitions.find? name = some (.text pattern)

theorem ReachesText.cons (reaches : definitions.ReachesText rest) (entry : Scalar × Value) :
    definitions.ReachesText (entry :: rest) := by
  rcases reaches with ⟨name, pattern, reachesText, found⟩
  exact ⟨name, pattern, reachesText.cons entry, found⟩

theorem reachesText_of_find? {pattern : String}
    (found : definitions.find? key = some (.text pattern)) :
    definitions.ReachesText ((key, value) :: rest) :=
  ⟨key, pattern, ⟨key, hasCall_head (hasKey_of_find? found), .refl⟩, found⟩

/-- A text that the body of a called definition reaches is reached by the call. -/
theorem ReachesText.of_body {arguments : List Value} (reaches : definitions.ReachesText body)
    (found : definitions.find? key = some (.mapping fields))
    (filled : Mapping.fill key arguments fields = .ok body) :
    definitions.ReachesText ((key, value) :: rest) := by
  rcases reaches with ⟨name, pattern, reachesText, foundText⟩
  exact ⟨name, pattern, reachesText.of_body found filled, foundText⟩

end Mapping

section Keys

open Mapping

variable {definitions available expanded fields result : Mapping}

/-- Where the keys of an expansion come from. -/
theorem Expands.key_cases (expands : Expands definitions available expanded fields result) :
    ∀ entry ∈ result, (∃ present ∈ expanded, present.1 = entry.1) ∨
      definitions.hasKey entry.1 = false ∨
      entry.1 = .text "title" ∧ definitions.ReachesText fields := by
  induction expands with
  | nil =>
      intro entry entry_mem
      exact Or.inl ⟨entry, entry_mem, rfl⟩
  | own isOwn others ih =>
      intro entry entry_mem
      rcases ih entry entry_mem with
        ⟨present, present_mem, same⟩ | noName | ⟨isTitle, reaches⟩
      · rcases key_of_mem_insert present_mem with new | ⟨old, old_mem, sameOld⟩
        · right
          left
          rw [← same, new]
          exact isOwn
        · exact Or.inl ⟨old, old_mem, sameOld.trans same⟩
      · exact Or.inr (Or.inl noName)
      · exact Or.inr (Or.inr ⟨isTitle, reaches.cons _⟩)
  | text found filled =>
      intro entry entry_mem
      rw [List.mem_singleton.mp entry_mem]
      exact Or.inr (Or.inr ⟨rfl, reachesText_of_find? found⟩)
  | call closed found filled expandsBody others ihBody ihOthers =>
      intro entry entry_mem
      rcases ihOthers entry entry_mem with
        ⟨present, present_mem, same⟩ | noName | ⟨isTitle, reaches⟩
      · rcases key_of_mem_merge present_mem with
          ⟨old, old_mem, sameOld⟩ | ⟨added, added_mem, sameAdded⟩
        · exact Or.inl ⟨old, old_mem, sameOld.trans same⟩
        · rw [← same, ← sameAdded]
          rcases ihBody added added_mem with ⟨_, never, _⟩ | noName | ⟨isTitle, reaches⟩
          · cases never
          · exact Or.inr (Or.inl noName)
          · exact Or.inr (Or.inr ⟨isTitle, reaches.of_body found filled⟩)
      · exact Or.inr (Or.inl noName)
      · exact Or.inr (Or.inr ⟨isTitle, reaches.cons _⟩)

/--
The only key of an expanded rule that can still name a definition is the title, and only if the
rule is a text or calls a definition that is one.
-/
theorem remaining_name_is_title {fragment : Value} {key : Scalar}
    (distinct : definitions.DistinctKeys) (expanded : expandRule definitions fragment = .ok fields)
    (present : fields.hasKey key) (isName : definitions.hasKey key) :
    key = .text "title" ∧
      ((∃ pattern, fragment = .text pattern) ∨ definitions.ReachesText fragment.entries) := by
  rcases hasKey_iff.mp present with ⟨entry, entry_mem, same⟩
  rcases expands_of_expandRule distinct expanded with
    ⟨pattern, rfl, rfl⟩ | ⟨entries, rfl, expands⟩
  · rw [List.mem_singleton.mp entry_mem] at same
    exact ⟨Scalar.text_agrees_iff.mp same, Or.inl ⟨pattern, rfl⟩⟩
  · rcases expands.key_cases entry entry_mem with
      ⟨_, never, _⟩ | noName | ⟨isTitle, reaches⟩
    · cases never
    · rw [hasKey_congr same, isName] at noName
      cases noName
    · rw [isTitle] at same
      exact ⟨Scalar.text_agrees_iff.mp same, Or.inr reaches⟩

end Keys

namespace TitleByName

/-- A definition that is a text, and another one that has the name of the title. -/
def definitions : Mapping :=
  [(.text "show", .text "^$1 -"), (.text "title", .mapping [(.text "comment", .text "$1")])]

/-- A rule with a call of the text. -/
def fragment : Value :=
  .mapping [(.text "show", .text "A")]

theorem distinctKeys_definitions : definitions.DistinctKeys := by
  simp [definitions, Mapping.DistinctKeys]

theorem expandRule_fragment :
    expandRule definitions fragment = .ok [(.text "title", .text "^A -")] := by cbv

/-- The title that a text stands for remains, although there is a definition of that name. -/
theorem title_remains :
    definitions.DistinctKeys ∧ ∃ fields, expandRule definitions fragment = .ok fields ∧
      fields.hasKey (.text "title") ∧ definitions.hasKey (.text "title") :=
  ⟨distinctKeys_definitions, _, expandRule_fragment, by decide, by decide⟩

/-- What remains here is the title, given by the definition that is a text. -/
theorem remaining_name_is_title_of_text :
    definitions.DistinctKeys ∧
      expandRule definitions fragment = .ok [(.text "title", .text "^A -")] ∧
      definitions.hasKey (.text "title") ∧ definitions.ReachesText fragment.entries := by
  have present : Mapping.hasKey [(.text "title", .text "^A -")] (.text "title") := by decide
  have isName : definitions.hasKey (.text "title") := by decide
  have remaining :=
    remaining_name_is_title distinctKeys_definitions expandRule_fragment present isName
  rcases remaining.2 with ⟨_, never⟩ | reaches
  · cases never
  · exact ⟨distinctKeys_definitions, expandRule_fragment, isName, reaches⟩

end TitleByName

end ReleaseWatch
