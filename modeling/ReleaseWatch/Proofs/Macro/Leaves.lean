import Mathlib
import ReleaseWatch.Proofs.Macro.OpenCalls

/-!
# Expansion as one row of settings

Expansion builds a mapping for every call and merges it into the one around it.
`Mapping.HasLeaves` tells without any merging which keys a mapping sets in the end and in which
order: those that name no definition, and those that the bodies of the called definitions set in
their place. A call of a text sets the title and replaces all the rest. The result of an expansion
is the mapping that this row of settings makes of an empty one.
-/

namespace ReleaseWatch

namespace Mapping

/-- The first entry of a mapping whose key names a text, with that text. -/
def firstText? (definitions fields : Mapping) : Option (Scalar × Value × String) :=
  fields.findSome? fun entry =>
    match definitions.find? entry.1 with
    | some (.scalar (.text pattern)) => some (entry.1, entry.2, pattern)
    | _ => none

/-- The settings that a mapping comes to when all its calls are expanded. -/
inductive HasLeaves (definitions : Mapping) : (fields leaves : Mapping) → Prop
  | text {fields : Mapping} {key : Scalar} {value : Value} {pattern title : String}
      (first : definitions.firstText? fields = some (key, value, pattern))
      (filled : fillText key (argumentList value) pattern = .ok title) :
      HasLeaves definitions fields [(.text "title", .text title)]
  | nil : HasLeaves definitions [] []
  | own {key : Scalar} {value : Value} {rest leaves : Mapping}
      (isOwn : definitions.hasKey key = false) (noText : definitions.firstText? rest = none)
      (others : HasLeaves definitions rest leaves) :
      HasLeaves definitions ((key, value) :: rest) ((key, value) :: leaves)
  | call {key : Scalar} {value : Value} {fields body rest first leaves : Mapping}
      (found : definitions.find? key = some (.mapping fields))
      (noText : definitions.firstText? rest = none)
      (filled : Mapping.fill key (argumentList value) fields = .ok body)
      (inner : HasLeaves definitions body first) (others : HasLeaves definitions rest leaves) :
      HasLeaves definitions ((key, value) :: rest) (first ++ leaves)

variable {definitions fields rest leaves : Mapping} {key : Scalar} {value : Value}

theorem firstText?_cons_of_text {pattern : String}
    (found : definitions.find? key = some (.text pattern)) :
    definitions.firstText? ((key, value) :: rest) = some (key, value, pattern) := by
  simp [firstText?, found]

theorem firstText?_cons_of_mapping (found : definitions.find? key = some (.mapping fields)) :
    definitions.firstText? ((key, value) :: rest) = definitions.firstText? rest := by
  simp [firstText?, found]

theorem firstText?_cons_of_own (isOwn : definitions.hasKey key = false) :
    definitions.firstText? ((key, value) :: rest) = definitions.firstText? rest := by
  simp [firstText?, hasKey_eq_false_iff.mp isOwn]

/-- A mapping comes to one row of settings only. -/
theorem HasLeaves.unique (hasLeaves : definitions.HasLeaves fields leaves) {other : Mapping}
    (hasOther : definitions.HasLeaves fields other) : other = leaves := by
  induction hasLeaves generalizing other with
  | text first filled =>
      cases hasOther with
      | text first' filled' =>
          rw [first] at first'
          cases first'
          rw [filled] at filled'
          cases filled'
          rfl
      | nil => cases first
      | own isOwn noText =>
          rw [firstText?_cons_of_own isOwn, noText] at first
          cases first
      | call found noText =>
          rw [firstText?_cons_of_mapping found, noText] at first
          cases first
  | nil =>
      cases hasOther with
      | text first => cases first
      | nil => rfl
  | own isOwn noText others ih =>
      cases hasOther with
      | text first =>
          rw [firstText?_cons_of_own isOwn, noText] at first
          cases first
      | own _ _ others' => rw [ih others']
      | call found =>
          rw [hasKey_of_find? found] at isOwn
          cases isOwn
  | call found noText filled inner others ihInner ihOthers =>
      cases hasOther with
      | text first =>
          rw [firstText?_cons_of_mapping found, noText] at first
          cases first
      | own isOwn =>
          rw [hasKey_of_find? found] at isOwn
          cases isOwn
      | call found' _ filled' inner' others' =>
          rw [found] at found'
          cases found'
          rw [filled] at filled'
          cases filled'
          rw [ihInner inner', ihOthers others']

end Mapping

section Rows

open Mapping

variable {definitions available expanded fields result : Mapping}

/--
An expansion ends early with the title of the first text that is called, or it sets the leaves of
its entries on top of what has been given before.
-/
theorem Expands.text_or_merge (expands : Expands definitions available expanded fields result) :
    (∃ key value pattern title, definitions.firstText? fields = some (key, value, pattern) ∧
      fillText key (argumentList value) pattern = .ok title ∧ result = titleRule title) ∨
    definitions.firstText? fields = none ∧
      ∃ leaves, definitions.HasLeaves fields leaves ∧ result = expanded.merge leaves := by
  induction expands with
  | nil => exact Or.inr ⟨rfl, [], .nil, rfl⟩
  | own isOwn others ih =>
      rw [firstText?_cons_of_own isOwn]
      rcases ih with cutShort | ⟨noText, leaves, hasLeaves, rfl⟩
      · exact Or.inl cutShort
      · exact Or.inr ⟨noText, _, .own isOwn noText hasLeaves, rfl⟩
  | text found filled =>
      exact Or.inl ⟨_, _, _, _, firstText?_cons_of_text found, filled, rfl⟩
  | @call available expanded rest fields body inner result key value closed found filled expandsBody
      others ihBody ihOthers =>
      rw [firstText?_cons_of_mapping found]
      -- the body is expanded on its own, so its row has been merged into an empty mapping before
      obtain ⟨first, hasFirst, rfl⟩ :
          ∃ first, definitions.HasLeaves body first ∧ inner = ofList first := by
        rcases ihBody with
          ⟨_, _, _, title, isFirst, filledText, rfl⟩ | ⟨_, first, hasFirst, rfl⟩
        · exact ⟨titleRule title, .text isFirst filledText, rfl⟩
        · exact ⟨first, hasFirst, rfl⟩
      rcases ihOthers with cutShort | ⟨noText, leaves, hasLeaves, rfl⟩
      · exact Or.inl cutShort
      · refine Or.inr ⟨noText, first ++ leaves, .call found noText filled hasFirst hasLeaves,
          ?_⟩
        rw [merge_ofList, merge_append]

/--
The rule that a mapping stands for is the row of its leaves, set one after the other in an
empty mapping: its keys stand in the order in which they are first set, and each has the
value that is set last.
-/
theorem expandRule_eq_ofList_leaves (distinct : definitions.DistinctKeys)
    (done : expandRule definitions (.mapping fields) = .ok result) :
    ∃ leaves, definitions.HasLeaves fields leaves ∧
      (∀ other, definitions.HasLeaves fields other → other = leaves) ∧
      result = ofList leaves ∧
      result.map Prod.fst = (leaves.map Prod.fst).eraseDupsBy Scalar.agrees ∧
      ∀ key, result.find? key = find? leaves.reverse key := by
  obtain ⟨leaves, hasLeaves, rfl⟩ :
      ∃ leaves, definitions.HasLeaves fields leaves ∧ result = ofList leaves := by
    rcases expands_of_expandRule distinct done with ⟨_, never, _⟩ | ⟨entries, same, expands⟩
    · cases never
    · cases same
      rcases expands.text_or_merge with
        ⟨_, _, _, title, first, filled, rfl⟩ | ⟨_, leaves, hasLeaves, rfl⟩
      · exact ⟨titleRule title, .text first filled, rfl⟩
      · exact ⟨leaves, hasLeaves, rfl⟩
  refine ⟨leaves, hasLeaves, ?_, rfl, keys_ofList leaves, find?_ofList leaves⟩
  intro other hasOther
  exact hasLeaves.unique hasOther

end Rows

namespace Overrides

/-- Definitions that set the same keys; one of them calls a text. -/
def definitions : Mapping :=
  [(.text "show", .text "^$1 -"),
    (.text "trusted", .mapping [(.text "authorized", .bool true), (.text "show", .text "$1")]),
    (.text "anime", .mapping [(.text "category", .text "Anime"), (.text "title", .text "$1"),
      (.text "comment", .text "old")])]

/-- A rule that calls two of them. -/
def fields : Mapping :=
  [(.text "anime", .text "B"), (.text "comment", .text "new"), (.text "trusted", .text "A"),
    (.text "size", .null)]

/-- The keys that the rule sets. -/
def leaves : Mapping :=
  [(.text "category", .text "Anime"), (.text "title", .text "B"), (.text "comment", .text "old"),
    (.text "comment", .text "new"), (.text "title", .text "^A -"), (.text "size", .null)]

theorem distinctKeys_definitions : definitions.DistinctKeys := by
  simp [definitions, Mapping.DistinctKeys]

theorem expandRule_fields :
    expandRule definitions (.mapping fields) =
      .ok [(.text "category", .text "Anime"), (.text "title", .text "^A -"),
        (.text "comment", .text "new"), (.text "size", .null)] := by cbv

theorem hasLeaves_fields : definitions.HasLeaves fields leaves := by
  have anime : definitions.HasLeaves
      [(.text "category", .text "Anime"), (.text "title", .text "B"),
        (.text "comment", .text "old")]
      [(.text "category", .text "Anime"), (.text "title", .text "B"),
        (.text "comment", .text "old")] :=
    .own rfl rfl (.own rfl rfl (.own rfl rfl .nil))
  have trusted : definitions.HasLeaves
      [(.text "authorized", .bool true), (.text "show", .text "A")]
      [(.text "title", .text "^A -")] :=
    .text rfl (by cbv)
  exact .call rfl rfl (by cbv) anime
    (.own rfl rfl (.call rfl rfl (by cbv) trusted (.own rfl rfl .nil)))

/-- The later title and the later comment stand in the places of the earlier ones. -/
theorem expandRule_eq_ofList_leaves_of_overrides :
    definitions.DistinctKeys ∧ definitions.HasLeaves fields leaves ∧
    expandRule definitions (.mapping fields) = .ok (Mapping.ofList leaves) := by
  rcases expandRule_eq_ofList_leaves distinctKeys_definitions expandRule_fields with
    ⟨row, _, unique, same, _, _⟩
  refine ⟨distinctKeys_definitions, hasLeaves_fields, ?_⟩
  rw [unique leaves hasLeaves_fields, ← same]
  exact expandRule_fields

end Overrides

end ReleaseWatch
