import Mathlib
import ReleaseWatch.Proofs.Macro.Nesting

/-!
# Which definitions call each other

A definition that is a mapping calls every definition that one of its keys names. Expansion
follows these calls along a chain of open names. So a call of an open name closes a cycle of
the graph, which the rule reaches; and where no definition is a text, which would end the
expansion early, every call that the rule reaches has been followed when the expansion comes to
a result, so that none of them lies on a cycle. A definition that is called twice along
different paths is no cycle. Definitions have distinct names throughout, as the keys of every
mapping that was read or built have.
-/

namespace ReleaseWatch

/-- The entries of a rule fragment; only a mapping has some. -/
def Value.entries : Value → Mapping
  | .mapping fields => fields
  | _ => []

/-- Whether a failure reports that a definition leads back to itself. -/
def Failure.IsCycle : Failure → Prop
  | .configuration (.definitionCycle _) => True
  | .cycleOfUnnamed => True
  | _ => False

theorem Failure.not_isCycle_showing {content : Scalar} {problem : ConfigurationProblem}
    (other : ¬(Failure.configuration problem).IsCycle) : ¬(showing content problem).IsCycle := by
  unfold showing
  split
  · exact id
  · exact other

theorem HoleProblem.not_isCycle_failure {name : Scalar} {text : String} (problem : HoleProblem) :
    ¬(problem.failure name text).IsCycle := by
  cases problem with
  | missing index => exact Failure.not_isCycle_showing id
  | tooLong => exact id

namespace Mapping

/-- A key of a mapping names a definition. -/
def HasCall (definitions fields : Mapping) (name : Scalar) : Prop :=
  fields.hasKey name ∧ definitions.hasKey name

/-- A definition that is a mapping calls another one. -/
def Calls (definitions : Mapping) (caller callee : Scalar) : Prop :=
  ∃ fields, definitions.find? caller = some (.mapping fields) ∧
    definitions.HasCall fields callee

/-- A definition that a mapping calls, itself or through other definitions. -/
def Reaches (definitions fields : Mapping) (name : Scalar) : Prop :=
  ∃ start, definitions.HasCall fields start ∧ Relation.ReflTransGen definitions.Calls start name

/-- A definition that leads back to itself. -/
def OnCycle (definitions : Mapping) (name : Scalar) : Prop :=
  Relation.TransGen definitions.Calls name name

variable {definitions fields rest : Mapping} {name other : Scalar} {entry : Scalar × Value}

theorem hasCall_cons_iff :
    definitions.HasCall (entry :: rest) name ↔
      entry.1.agrees name ∧ definitions.hasKey entry.1 ∨ definitions.HasCall rest name := by
  rw [HasCall, HasCall, hasKey_cons_iff]
  constructor
  · rintro ⟨same | present, defined⟩
    · exact Or.inl ⟨same, hasKey_congr same ▸ defined⟩
    · exact Or.inr ⟨present, defined⟩
  · rintro (⟨same, defined⟩ | ⟨present, defined⟩)
    · exact ⟨Or.inl same, hasKey_congr same ▸ defined⟩
    · exact ⟨Or.inr present, defined⟩

theorem hasCall_head {value : Value} (defined : definitions.hasKey name) :
    definitions.HasCall ((name, value) :: rest) name :=
  hasCall_cons_iff.mpr (Or.inl ⟨agrees_self_of_hasKey defined, defined⟩)

theorem Calls.congr_left {callee : Scalar} (calls : definitions.Calls name callee)
    (same : name.agrees other) : definitions.Calls other callee := by
  rcases calls with ⟨fields, found, hasCall⟩
  exact ⟨fields, find?_congr same ▸ found, hasCall⟩

/-- A path of calls begins with a call of its first definition, and goes on from there. -/
theorem transGen_congr_left {callee : Scalar}
    (path : Relation.TransGen definitions.Calls name callee) (same : name.agrees other) :
    Relation.TransGen definitions.Calls other callee := by
  rcases Relation.TransGen.head'_iff.mp path with ⟨next, calls, others⟩
  exact Relation.TransGen.head'_iff.mpr ⟨next, calls.congr_left same, others⟩

/-- What a definition leads to by one call or more, its body reaches. -/
theorem reaches_of_transGen (found : definitions.find? name = some (.mapping fields))
    (path : Relation.TransGen definitions.Calls name other) : definitions.Reaches fields other := by
  rcases Relation.TransGen.head'_iff.mp path with
    ⟨next, ⟨inner, foundInner, hasCall⟩, others⟩
  rw [found] at foundInner
  cases foundInner
  exact ⟨next, hasCall, others⟩

theorem Reaches.of_hasKey_eq {body : Mapping}
    (sameKeys : ∀ key, body.hasKey key = fields.hasKey key)
    (reaches : definitions.Reaches fields name) : definitions.Reaches body name := by
  rcases reaches with ⟨start, ⟨present, defined⟩, path⟩
  exact ⟨start, ⟨(sameKeys start).trans present, defined⟩, path⟩

theorem Reaches.cons (reaches : definitions.Reaches rest name) (entry : Scalar × Value) :
    definitions.Reaches (entry :: rest) name := by
  rcases reaches with ⟨start, hasCall, path⟩
  exact ⟨start, hasCall_cons_iff.mpr (Or.inr hasCall), path⟩

/-- What the body of a called definition reaches is reached by the call. -/
theorem Reaches.of_body {key : Scalar} {value : Value} {arguments : List Value} {body : Mapping}
    (reaches : definitions.Reaches body name)
    (found : definitions.find? key = some (.mapping fields))
    (filled : Mapping.fill key arguments fields = .ok body) :
    definitions.Reaches ((key, value) :: rest) name := by
  rcases reaches with ⟨start, ⟨present, defined⟩, path⟩
  rw [hasKey_of_fill filled] at present
  have calls : definitions.Calls key start := ⟨fields, found, present, defined⟩
  exact ⟨key, hasCall_head (hasKey_of_find? found), path.head calls⟩

end Mapping

section Followed

open Mapping

variable {definitions available expanded fields result : Mapping}

/--
Where no definition is a text, every definition that the entries reach was available when they
were expanded, and none of them leads back to itself.
-/
theorem Expands.available_and_not_onCycle
    (expands : Expands definitions available expanded fields result)
    (noText : ∀ name pattern, definitions.find? name ≠ some (.text pattern))
    (distinct : available.DistinctKeys) {name : Scalar}
    (reaches : definitions.Reaches fields name) :
    available.hasKey name ∧ ¬definitions.OnCycle name := by
  induction expands generalizing name with
  | nil =>
      rcases reaches with ⟨start, ⟨present, _⟩, _⟩
      cases present
  | own isOwn others ih =>
      rcases reaches with ⟨start, hasCall, path⟩
      rcases hasCall_cons_iff.mp hasCall with ⟨_, defined⟩ | hasCallRest
      · rw [isOwn] at defined
        cases defined
      · exact ih distinct ⟨start, hasCallRest, path⟩
  | text found filled => exact absurd found (noText _ _)
  | @call available expanded rest fields body inner result key value closed found filled expandsBody
      others ihBody ihOthers =>
      rcases reaches with ⟨start, hasCall, path⟩
      rcases hasCall_cons_iff.mp hasCall with ⟨same, _⟩ | hasCallRest
      · have foundStart : definitions.find? start = some (.mapping fields) :=
          (find?_congr same).symm.trans found
        -- whatever the called definition leads to was available beside it, so it does not lead to
        -- itself
        have beside : ∀ {later}, Relation.TransGen definitions.Calls start later →
            (available.erase key).hasKey later ∧ ¬definitions.OnCycle later := by
          intro later path
          have reachesBody := (reaches_of_transGen foundStart path).of_hasKey_eq
            (hasKey_of_fill filled)
          exact ihBody (distinct.erase key) reachesBody
        rcases Relation.reflTransGen_iff_eq_or_transGen.mp path with rfl | laterPath
        · refine ⟨hasKey_congr same ▸ closed, ?_⟩
          intro cycle
          exact (distinct.hasKey_erase_iff.mp (beside cycle).1).1 same
        · rcases beside laterPath with ⟨present, noCycle⟩
          exact ⟨(distinct.hasKey_erase_iff.mp present).2, noCycle⟩
      · exact ihOthers distinct ⟨start, hasCallRest, path⟩

/--
What an expansion knows of its open names: they lead to every call that it still has to expand.
-/
structure Mapping.Tracks (definitions root : Mapping) (chain : List Scalar)
    (available fields : Mapping) : Prop where
  under : definitions.AvailableUnder chain available
  reached : ∀ name, definitions.HasCall fields name → definitions.Reaches root name
  follows : ∀ opened ∈ chain, ∀ name, definitions.HasCall fields name →
    Relation.TransGen definitions.Calls opened name

namespace Mapping.Tracks

variable {root rest body : Mapping} {chain : List Scalar} {key : Scalar} {value : Value}

theorem initial (distinct : definitions.DistinctKeys) (root : Mapping) :
    definitions.Tracks root [] definitions root where
  under := .initial distinct
  reached name hasCall := ⟨name, hasCall, .refl⟩
  follows opened opened_mem := by simp at opened_mem

theorem tail (tracks : definitions.Tracks root chain available ((key, value) :: rest)) :
    definitions.Tracks root chain available rest where
  under := tracks.under
  reached name hasCall := tracks.reached name (hasCall_cons_iff.mpr (Or.inr hasCall))
  follows opened opened_mem name hasCall :=
    tracks.follows opened opened_mem name (hasCall_cons_iff.mpr (Or.inr hasCall))

/-- Opening a definition extends every path to it by the calls of its body. -/
theorem opening (tracks : definitions.Tracks root chain available ((key, value) :: rest))
    (found : available.find? key = some (.mapping fields))
    (filled : Mapping.fill key (argumentList value) fields = .ok body) :
    definitions.Tracks root (chain ++ [key]) (available.erase key) body := by
  have foundKey := tracks.under.find?_of_find? found
  have hasCallKey : definitions.HasCall ((key, value) :: rest) key :=
    hasCall_head (hasKey_of_find? foundKey)
  have calls : ∀ name, definitions.HasCall body name → definitions.Calls key name := by
    rintro name ⟨present, defined⟩
    rw [hasKey_of_fill filled] at present
    exact ⟨fields, foundKey, present, defined⟩
  refine ⟨tracks.under.opening key, ?_, ?_⟩
  · intro name hasCall
    rcases tracks.reached key hasCallKey with ⟨start, hasCallStart, path⟩
    exact ⟨start, hasCallStart, path.tail (calls name hasCall)⟩
  · intro opened opened_mem name hasCall
    rcases List.mem_append.mp opened_mem with earlier | last
    · exact (tracks.follows opened earlier key hasCallKey).tail (calls name hasCall)
    · rw [List.mem_singleton.mp last]
      exact .single (calls name hasCall)

/-- A call of an open name lies on a cycle. -/
theorem onCycle (tracks : definitions.Tracks root chain available ((key, value) :: rest))
    (defined : definitions.hasKey key) (missing : available.find? key = none) :
    definitions.Reaches root key ∧ definitions.OnCycle key := by
  have hasCallKey : definitions.HasCall ((key, value) :: rest) key := hasCall_head defined
  rcases tracks.under.exists_opened defined missing with ⟨opened, opened_mem, same⟩
  have path := tracks.follows opened opened_mem key hasCallKey
  exact ⟨tracks.reached key hasCallKey, transGen_congr_left path same⟩

end Mapping.Tracks

theorem exists_onCycle_of_expandFields {root : Mapping} {chain : List Scalar} {failure : Failure}
    (tracks : definitions.Tracks root chain available fields)
    (failed : expandFields definitions chain available expanded fields = .error failure)
    (isCycle : failure.IsCycle) :
    ∃ name, definitions.Reaches root name ∧ definitions.OnCycle name := by
  -- only a call of an open name reports a cycle; filling and kinds of definitions have failures of
  -- their own
  fun_induction expandFields definitions chain available expanded fields with
  | case1 => cases failed
  | case2 chain available expanded key value rest defined missing =>
      exact ⟨key, tracks.onCycle defined missing⟩
  | case3 chain available expanded key value rest defined pattern found =>
      rcases filled : fillText key (argumentList value) pattern with cause | title
      · rw [filled] at failed
        cases failed
        rcases failure_of_fillText filled with ⟨problem, rfl⟩
        exact absurd isCycle problem.not_isCycle_failure
      · rw [filled] at failed
        cases failed
  | case4 chain available expanded key value rest defined fields found cause failedFill =>
      cases failed
      rcases failure_of_fill failedFill with ⟨text, problem, rfl⟩
      exact absurd isCycle problem.not_isCycle_failure
  | case5 chain available expanded key value rest defined fields found body filled cause
    failedBody ih =>
      cases failed
      exact ih (tracks.opening found filled) failedBody
  | case6 chain available expanded key value rest defined fields found body filled inner ran _ ih =>
      exact ih tracks.tail failed
  | case7 =>
      cases failed
      exact absurd isCycle (Failure.not_isCycle_showing id)
  | case8 chain available expanded key value rest undefined ih => exact ih tracks.tail failed

end Followed

/--
Expansion ends: with one level for the rule and one for each definition that is a mapping, it
is never nested too deep. If it reports a cycle, then the rule reaches a definition that
leads back to itself; and if no definition is a text and it comes to a result, then the rule
reaches no such definition.
-/
theorem expandRule_ends_and_detects_cycles {definitions : Mapping}
    (distinct : definitions.DistinctKeys) (fragment : Value) :
    expandRuleWithin definitions (definitions.mappingCount + 1) fragment =
      some (expandRule definitions fragment) ∧
    (∀ failure, expandRule definitions fragment = .error failure → failure.IsCycle →
      ∃ name, definitions.Reaches fragment.entries name ∧ definitions.OnCycle name) ∧
    ((∀ name pattern, definitions.find? name ≠ some (.text pattern)) →
      ∀ fields, expandRule definitions fragment = .ok fields →
        ∀ name, definitions.Reaches fragment.entries name → ¬definitions.OnCycle name) := by
  refine ⟨expandRuleWithin_eq distinct fragment, ?_, ?_⟩
  · intro failure failed isCycle
    unfold expandRule at failed
    split at failed
    · cases failed
    · rename_i entries
      exact exists_onCycle_of_expandFields (.initial distinct entries) failed isCycle
    · cases failed
      cases isCycle
  · intro noText fields expanded name reaches
    rcases expands_of_expandRule distinct expanded with
      ⟨_, rfl, _⟩ | ⟨entries, rfl, expands⟩
    · rcases reaches with ⟨start, ⟨present, _⟩, _⟩
      cases present
    · exact (expands.available_and_not_onCycle noText distinct reaches).2

namespace TwoWays

/-- Two definitions that call each other. -/
def circular : Mapping :=
  [(.text "show", .mapping [(.text "series", .text "$1")]),
    (.text "series", .mapping [(.text "comment", .null), (.text "show", .text "$1")])]

/-- A definition that is called along two paths, by the rule and by another definition. -/
def shared : Mapping :=
  [(.text "show", .mapping [(.text "title", .text "$1")]),
    (.text "trusted", .mapping [(.text "show", .text "$1"), (.text "authorized", .bool true)])]

/-- A rule with a call of one definition. -/
def once : Value :=
  .mapping [(.text "show", .text "A")]

/-- A rule that calls a definition itself and through another one. -/
def twice : Value :=
  .mapping [(.text "trusted", .text "A"), (.text "show", .text "B")]

theorem distinctKeys_circular : circular.DistinctKeys := by
  simp [circular, Mapping.DistinctKeys]

theorem distinctKeys_shared : shared.DistinctKeys := by
  simp [shared, Mapping.DistinctKeys]

theorem expandRule_circular :
    expandRule circular once =
      .error (.configuration (.definitionCycle ["show", "series", "show"])) := by cbv

theorem expandRule_shared :
    expandRule shared twice =
      .ok [(.text "title", .text "B"), (.text "authorized", .bool true)] := by cbv

theorem find?_shared_ne_text (name : Scalar) (pattern : String) :
    shared.find? name ≠ some (.text pattern) := by
  simp only [shared, Mapping.find?_cons]
  split
  · simp
  · split
    · simp
    · simp [Mapping.find?]

/-- A cycle is reported where there is one; two paths to one definition are none. -/
theorem expandRule_ends_and_detects_cycles_of_twoWays :
    circular.DistinctKeys ∧ shared.DistinctKeys ∧
    expandRule circular once =
      .error (.configuration (.definitionCycle ["show", "series", "show"])) ∧
    (∃ name, circular.Reaches once.entries name ∧ circular.OnCycle name) ∧
    (∀ name pattern, shared.find? name ≠ some (.text pattern)) ∧
    expandRule shared twice = .ok [(.text "title", .text "B"), (.text "authorized", .bool true)] ∧
    expandRuleWithin shared 3 twice = some (expandRule shared twice) ∧
    ∀ name, shared.Reaches twice.entries name → ¬shared.OnCycle name := by
  have cycle := (expandRule_ends_and_detects_cycles distinctKeys_circular once).2.1
  have noCycle := expandRule_ends_and_detects_cycles distinctKeys_shared twice
  exact ⟨distinctKeys_circular, distinctKeys_shared, expandRule_circular,
    cycle _ expandRule_circular trivial, find?_shared_ne_text, expandRule_shared, noCycle.1,
    noCycle.2.2 find?_shared_ne_text _ expandRule_shared⟩

end TwoWays

end ReleaseWatch
