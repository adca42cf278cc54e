import ReleaseWatch.Proofs.Macro.DistinctKeys

/-!
# Expansion with open calls

What is available to the calls inside of open definitions is every definition that is not
open. `Expands` lists the ways in which an expansion comes to a result, in terms of the
definitions alone: what is still available only decides that a call of a mapping was not
open. To fill the values of a definition leaves its keys as they are, and can fail only at a
hole of one of its texts.
-/

namespace ReleaseWatch

theorem failure_of_fillText {name : Scalar} {arguments : List Value} {text : String}
    {failure : Failure} (failed : fillText name arguments text = .error failure) :
    ∃ problem : HoleProblem, failure = problem.failure name text := by
  unfold fillText at failed
  split at failed
  · cases failed
  · next problem _ =>
      cases failed
      exact ⟨problem, rfl⟩

namespace Value

mutual

theorem failure_of_fill {name : Scalar} {arguments : List Value} {failure : Failure} :
    ∀ value : Value, value.fill name arguments = .error failure →
      ∃ text, ∃ problem : HoleProblem, failure = problem.failure name text
  | .scalar .null, failed => by simp [fill] at failed
  | .scalar (.bool _), failed => by simp [fill] at failed
  | .scalar (.int _), failed => by simp [fill] at failed
  | .scalar (.real _), failed => by simp [fill] at failed
  | .mapping _, failed => by simp [fill] at failed
  | .scalar (.text content), failed => by
      rw [fill] at failed
      rcases filled : fillText name arguments content with cause | text
      · rw [filled] at failed
        cases failed
        exact ⟨content, failure_of_fillText filled⟩
      · rw [filled] at failed
        cases failed
  | .list items, failed => by
      rw [fill] at failed
      rcases filled : fillItems name arguments items with cause | values
      · rw [filled] at failed
        cases failed
        exact failure_of_fillItems items filled
      · rw [filled] at failed
        cases failed

theorem failure_of_fillItems {name : Scalar} {arguments : List Value} {failure : Failure} :
    ∀ items : List Value, fillItems name arguments items = .error failure →
      ∃ text, ∃ problem : HoleProblem, failure = problem.failure name text
  | [], failed => by simp [fillItems] at failed
  | item :: rest, failed => by
      simp only [fillItems, bind, Outcome.bind_eq_error_iff] at failed
      rcases failed with failedItem | ⟨filled, _, failedRest | ⟨others, _, never⟩⟩
      · exact failure_of_fill item failedItem
      · exact failure_of_fillItems rest failedRest
      · cases never

end

theorem fillItems_cons_eq_ok_iff {name : Scalar} {arguments rest filled : List Value}
    {item : Value} :
    fillItems name arguments (item :: rest) = .ok filled ↔
      ∃ first, item.fill name arguments = .ok first ∧
        ∃ others, fillItems name arguments rest = .ok others ∧ first :: others = filled := by
  simp only [fillItems, bind, Outcome.bind_eq_ok_iff, pure, Except.pure, Except.ok.injEq]

end Value

namespace Mapping

variable {name : Scalar} {arguments : List Value} {fields : Mapping}

theorem failure_of_fill {failure : Failure} (failed : fill name arguments fields = .error failure) :
    ∃ text, ∃ problem : HoleProblem, failure = problem.failure name text := by
  induction fields with
  | nil => cases failed
  | cons entry rest ih =>
      simp only [fill, bind, Outcome.bind_eq_error_iff] at failed
      rcases failed with failedValue | ⟨filled, _, failedRest | ⟨others, _, never⟩⟩
      · exact Value.failure_of_fill entry.2 failedValue
      · exact ih failedRest
      · cases never

theorem fill_cons_eq_ok_iff {entry : Scalar × Value} {rest filled : Mapping} :
    fill name arguments (entry :: rest) = .ok filled ↔
      ∃ value, entry.2.fill name arguments = .ok value ∧
        ∃ others, fill name arguments rest = .ok others ∧
          (entry.1, value) :: others = filled := by
  simp only [fill, bind, Outcome.bind_eq_ok_iff, pure, Except.pure, Except.ok.injEq]

/-- Filling the values of a mapping leaves its keys as they are. -/
theorem hasKey_of_fill {body : Mapping} (filled : fill name arguments fields = .ok body)
    (key : Scalar) : body.hasKey key = fields.hasKey key := by
  induction fields generalizing body with
  | nil =>
      cases filled
      rfl
  | cons entry rest ih =>
      rcases fill_cons_eq_ok_iff.mp filled with ⟨value, _, others, filledRest, rfl⟩
      simp only [hasKey, find?_cons]
      split
      · rfl
      · exact ih filledRest

/-- The definitions that are available while those of a chain are open. -/
structure AvailableUnder (definitions : Mapping) (chain : List Scalar) (available : Mapping) :
    Prop where
  distinct : available.DistinctKeys
  find?_eq : ∀ key,
    available.find? key = if chain.any (·.agrees key) then none else definitions.find? key

namespace AvailableUnder

variable {definitions available : Mapping} {chain : List Scalar} {key : Scalar}

theorem initial (distinct : definitions.DistinctKeys) :
    definitions.AvailableUnder [] definitions where
  distinct := distinct
  find?_eq key := by simp

theorem opening (under : definitions.AvailableUnder chain available) (opened : Scalar) :
    definitions.AvailableUnder (chain ++ [opened]) (available.erase opened) where
  distinct := under.distinct.erase opened
  find?_eq key := by
    rw [under.distinct.find?_erase, under.find?_eq, List.any_append]
    by_cases same : opened.agrees key
    · simp [same]
    · simp [same]

theorem find?_of_find? (under : definitions.AvailableUnder chain available) {value : Value}
    (found : available.find? key = some value) : definitions.find? key = some value := by
  rw [under.find?_eq] at found
  split at found
  · cases found
  · exact found

theorem any_agrees_eq_false (under : definitions.AvailableUnder chain available) {value : Value}
    (found : available.find? key = some value) : chain.any (·.agrees key) = false := by
  rw [under.find?_eq] at found
  split at found
  · cases found
  · rename_i closed
    simpa using closed

/-- A definition that is not available is open. -/
theorem exists_opened (under : definitions.AvailableUnder chain available)
    (defined : definitions.hasKey key) (missing : available.find? key = none) :
    ∃ opened ∈ chain, opened.agrees key := by
  rw [under.find?_eq] at missing
  split at missing
  · rename_i isOpen
    exact List.any_eq_true.mp isOpen
  · rw [hasKey, missing] at defined
    cases defined

end AvailableUnder

end Mapping

/-- The ways in which the entries of a mapping are expanded on top of what has been given before. -/
inductive Expands (definitions : Mapping) : (available expanded fields result : Mapping) → Prop
  | nil {available expanded : Mapping} : Expands definitions available expanded [] expanded
  | own {available expanded rest result : Mapping} {key : Scalar} {value : Value}
      (isOwn : definitions.hasKey key = false)
      (others : Expands definitions available (expanded.insert key value) rest result) :
      Expands definitions available expanded ((key, value) :: rest) result
  | text {available expanded rest : Mapping} {key : Scalar} {value : Value} {pattern title : String}
      (found : definitions.find? key = some (.text pattern))
      (filled : fillText key (argumentList value) pattern = .ok title) :
      Expands definitions available expanded ((key, value) :: rest) (titleRule title)
  | call {available expanded rest fields body inner result : Mapping} {key : Scalar} {value : Value}
      (closed : available.hasKey key)
      (found : definitions.find? key = some (.mapping fields))
      (filled : Mapping.fill key (argumentList value) fields = .ok body)
      (expandsBody : Expands definitions (available.erase key) [] body inner)
      (others : Expands definitions available (expanded.merge inner) rest result) :
      Expands definitions available expanded ((key, value) :: rest) result

theorem expands_of_expandFields {definitions available expanded fields result : Mapping}
    {chain : List Scalar} (under : definitions.AvailableUnder chain available)
    (done : expandFields definitions chain available expanded fields = .ok result) :
    Expands definitions available expanded fields result := by
  fun_induction expandFields definitions chain available expanded fields generalizing result with
  | case1 chain available expanded =>
      cases done
      exact .nil
  | case2 => cases done
  | case3 chain available expanded key value rest defined pattern found =>
      rcases Outcome.map_eq_ok_iff.mp done with ⟨title, filled, rfl⟩
      exact .text (under.find?_of_find? found) filled
  | case4 => cases done
  | case5 => cases done
  | case6 chain available expanded key value rest defined fields found body filled inner ran ihBody
      ihRest =>
      have expandsBody := ihBody (under.opening key) ran
      exact .call (Mapping.hasKey_of_find? found) (under.find?_of_find? found) filled expandsBody
        (ihRest under done)
  | case7 => cases done
  | case8 chain available expanded key value rest undefined ih =>
      exact .own (by simpa using undefined) (ih under done)

/-- A mapping that a rule stands for is the expansion of a mapping, or the rule of a text. -/
theorem expands_of_expandRule {definitions fields : Mapping} {fragment : Value}
    (distinct : definitions.DistinctKeys)
    (expanded : expandRule definitions fragment = .ok fields) :
    (∃ pattern, fragment = .text pattern ∧ fields = titleRule pattern) ∨
      ∃ entries, fragment = .mapping entries ∧
        Expands definitions definitions [] entries fields := by
  unfold expandRule at expanded
  split at expanded
  · rename_i pattern
    cases expanded
    exact Or.inl ⟨pattern, rfl, rfl⟩
  · rename_i entries
    exact Or.inr ⟨entries, rfl, expands_of_expandFields (.initial distinct) expanded⟩
  · cases expanded

end ReleaseWatch
