import ReleaseWatch.Proofs.Macro.OpenCalls

/-!
# How deep calls are nested

`Mapping.expandWithin` expands with the chain of open names as its only record, and gives up when
expansions are nested deeper than a limit. It does not give up if the limit exceeds the number of
definitions that are mappings and still available: every nested expansion opens one of these, and
none is opened again inside itself. So an expansion needs no more nesting than one level for each
such definition, and one for the rule.
-/

namespace ReleaseWatch

/-- Whether a value is a mapping. -/
def Value.isMapping : Value → Bool
  | .mapping _ => true
  | _ => false

namespace Mapping

/-- How many values of a mapping are mappings themselves. -/
def mappingCount (fields : Mapping) : Nat :=
  fields.countP (·.2.isMapping)

theorem mappingCount_erase {fields inner : Mapping} {key : Scalar}
    (found : fields.find? key = some (.mapping inner)) :
    (fields.erase key).mappingCount + 1 = fields.mappingCount := by
  induction fields with
  | nil => cases found
  | cons entry rest ih =>
      rw [find?_cons] at found
      rw [erase]
      split at found
      · rename_i same
        have isMapping : entry.2.isMapping := by
          rw [Option.some.inj found]
          rfl
        simp [same, mappingCount, isMapping]
      · rename_i differs
        have smaller := ih found
        simp only [mappingCount] at smaller
        simp only [differs, mappingCount, List.countP_cons]
        simp only [Bool.false_eq_true, if_false, List.countP_cons]
        omega

/-- To open a mapping takes one level of a limit that the available mappings do not exceed. -/
theorem exists_limit_of_mapping {fields inner : Mapping} {key : Scalar} {limit : Nat}
    (found : fields.find? key = some (.mapping inner)) (enough : fields.mappingCount ≤ limit) :
    ∃ less, limit = less + 1 ∧ (fields.erase key).mappingCount ≤ less := by
  have smaller := mappingCount_erase found
  exact ⟨limit - 1, by omega, by omega⟩

/--
Expands the calls of the entries of a mapping, the bodies of called mappings with a given
function. A call of a name that agrees with one in the chain is a cycle.
-/
def expandEntries (definitions : Mapping)
    (expandBody : List Scalar → Mapping → Option (Except Failure Mapping)) (chain : List Scalar)
    (expanded : Mapping) : Mapping → Option (Except Failure Mapping)
  | [] => some (.ok expanded)
  | (key, value) :: rest =>
      match definitions.find? key with
      | none => expandEntries definitions expandBody chain (expanded.insert key value) rest
      | some definition =>
          if chain.any (·.agrees key) then some (.error (cycleFailure (chain ++ [key])))
          else
            match definition with
            | .scalar (.text pattern) =>
                some ((fillText key (argumentList value) pattern).map titleRule)
            | .mapping fields =>
                match Mapping.fill key (argumentList value) fields with
                | .error failure => some (.error failure)
                | .ok body =>
                    match expandBody (chain ++ [key]) body with
                    | none => none
                    | some (.error failure) => some (.error failure)
                    | some (.ok inner) =>
                        expandEntries definitions expandBody chain (expanded.merge inner) rest
            | other => some (.error (.showing key (.definitionNotMapping key other.kindName)))

/-- Expands a mapping, and gives up when more expansions than the limit are nested in each other. -/
def expandWithin (definitions : Mapping) :
    Nat → List Scalar → Mapping → Option (Except Failure Mapping)
  | 0, _, _ => none
  | limit + 1, chain, fields =>
      expandEntries definitions (expandWithin definitions limit) chain [] fields

/-- With a limit that the available mappings do not exceed, an expansion does not give up. -/
theorem expandEntries_eq {definitions available expanded fields : Mapping} {chain : List Scalar}
    {limit : Nat} (under : definitions.AvailableUnder chain available)
    (enough : available.mappingCount ≤ limit) :
    expandEntries definitions (expandWithin definitions limit) chain expanded fields =
      some (expandFields definitions chain available expanded fields) := by
  -- along the recursion of `expandFields`: a nested expansion has one level less and one mapping
  -- less to open
  fun_induction expandFields definitions chain available expanded fields generalizing limit with
  | case1 => rfl
  | case2 chain available expanded key value rest defined missing =>
      rcases under.exists_opened defined missing with ⟨opened, opened_mem, same⟩
      have isOpen : chain.any (·.agrees key) := List.any_eq_true.mpr ⟨opened, opened_mem, same⟩
      rcases Option.isSome_iff_exists.mp defined with ⟨definition, found⟩
      simp only [expandEntries, found, isOpen, if_true]
  | case3 chain available expanded key value rest defined pattern found =>
      have closed := under.any_agrees_eq_false found
      simp only [expandEntries, under.find?_of_find? found, closed, Bool.false_eq_true, if_false]
  | case4 chain available expanded key value rest defined fields found failure failed =>
      have closed := under.any_agrees_eq_false found
      simp only [expandEntries, under.find?_of_find? found, closed, Bool.false_eq_true,
        if_false, failed]
  | case5 chain available expanded key value rest defined fields found body filled
    failure failed ih =>
      have closed := under.any_agrees_eq_false found
      rcases exists_limit_of_mapping found enough with ⟨less, rfl, fits⟩
      have expandsBody := ih (under.opening key) fits
      rw [failed] at expandsBody
      simp only [expandEntries, under.find?_of_find? found, closed, Bool.false_eq_true,
        if_false, filled, expandWithin, expandsBody]
  | case6 chain available expanded key value rest defined fields found body filled inner ran ihBody
      ihRest =>
      have closed := under.any_agrees_eq_false found
      rcases exists_limit_of_mapping found enough with ⟨less, rfl, fits⟩
      have expandsBody := ihBody (under.opening key) fits
      rw [ran] at expandsBody
      simp only [expandEntries, under.find?_of_find? found, closed, Bool.false_eq_true,
        if_false, filled]
      simp only [expandWithin, expandsBody]
      exact ihRest under enough
  | case7 chain available expanded key value rest defined other notText notMapping found =>
      have closed := under.any_agrees_eq_false found
      simp only [expandEntries, under.find?_of_find? found, closed, Bool.false_eq_true, if_false]
  | case8 chain available expanded key value rest undefined ih =>
      have notFound : definitions.find? key = none := by simpa [hasKey] using undefined
      simp only [expandEntries, notFound]
      exact ih under enough

end Mapping

/-- Expands a rule, and gives up when more expansions than the limit are nested in each other. -/
def expandRuleWithin (definitions : Mapping) : Nat → Value → Option (Except Failure Mapping)
  | 0, _ => none
  | _ + 1, .scalar (.text pattern) => some (.ok (titleRule pattern))
  | limit + 1, .mapping fields => definitions.expandWithin (limit + 1) [] fields
  | _ + 1, other => some (.error (.configuration (.ruleNotMapping other.kindName)))

/--
One level for the rule and one for each definition that is a mapping are enough for every rule.
-/
theorem expandRuleWithin_eq {definitions : Mapping} (distinct : definitions.DistinctKeys)
    (fragment : Value) :
    expandRuleWithin definitions (definitions.mappingCount + 1) fragment =
      some (expandRule definitions fragment) := by
  cases fragment with
  | scalar content => cases content <;> rfl
  | list items => rfl
  | mapping fields => exact Mapping.expandEntries_eq (.initial distinct) (Nat.le_refl _)

end ReleaseWatch
