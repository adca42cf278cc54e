import ReleaseWatch.Proofs.Rule.Acceptance

/-!
# Deny rules before accept rules

Trying a rule on an entry has three ends: it matches, it misses, or it fails. A search through
a list of rules ends with the first rule that does not miss, so a failing rule counts only if
no rule before it matches. An entry is judged by two such searches, the deny rules first. It
is accepted only when every deny rule was tried and missed; a deny rule that fails is a
failure, never a pass.
-/

namespace ReleaseWatch

namespace Rule

/-- Trying a rule on an entry fails. -/
def Fails (rule : Rule) (entry : Entry) : Prop :=
  ∃ failure, rule.match? entry = .error failure

/-- A rule is tried on an entry without a failure, and does not match it. -/
def Misses (rule : Rule) (entry : Entry) : Prop :=
  ¬rule.Fails entry ∧ ¬rule.Matches entry

/-- Some rule of a list matches an entry, and no rule before that one fails. -/
def SomeMatches (entry : Entry) (rules : List Rule) : Prop :=
  ∃ before rule after, rules = before ++ rule :: after ∧
    (∀ earlier ∈ before, ¬earlier.Fails entry) ∧ rule.Matches entry

/-- The match of an entry with the first rule of a list that matches it. -/
def FirstMatch (entry : Entry) (rules : List Rule) (found : RuleMatch) : Prop :=
  ∃ before rule after, rules = before ++ rule :: after ∧
    (∀ earlier ∈ before, ¬earlier.Matches entry) ∧ rule.match? entry = .ok (some found)

/-- The failure of a rule of a list behind rules that miss an entry. -/
def FirstFailure (entry : Entry) (rules : List Rule) (failure : Failure) : Prop :=
  ∃ before rule after, rules = before ++ rule :: after ∧
    (∀ earlier ∈ before, earlier.Misses entry) ∧ rule.match? entry = .error failure

variable {rule : Rule} {rules : List Rule} {entry : Entry}

theorem misses_iff : rule.Misses entry ↔ rule.match? entry = .ok none := by
  unfold Misses Fails Matches
  constructor
  · rintro ⟨noFailure, noMatch⟩
    rcases tried : rule.match? entry with failure | found
    · exact absurd ⟨failure, tried⟩ noFailure
    · cases found with
      | none => rfl
      | some found => exact absurd ⟨found, tried⟩ noMatch
  · intro missed
    simp [missed]

/-- A search comes to an end without a match exactly if every rule misses. -/
theorem firstMatch?_eq_none_iff_misses :
    firstMatch? entry rules = .ok none ↔ ∀ rule ∈ rules, rule.Misses entry := by
  rw [firstMatch?_eq_none_iff]
  apply forall₂_congr
  intro rule rule_mem
  exact misses_iff.symm

theorem firstMatch_of_firstMatch? {found : RuleMatch}
    (searched : firstMatch? entry rules = .ok (some found)) : FirstMatch entry rules found := by
  rcases firstMatch?_eq_some_iff.mp searched with ⟨before, rule, after, split, missed, matched⟩
  refine ⟨before, rule, after, split, ?_, matched⟩
  intro earlier earlier_mem
  exact (misses_iff.mpr (missed earlier earlier_mem)).2

/-- A search finds a match exactly if some rule matches and no rule before it fails. -/
theorem exists_firstMatch?_eq_some_iff :
    (∃ found, firstMatch? entry rules = .ok (some found)) ↔ SomeMatches entry rules := by
  constructor
  · rintro ⟨found, searched⟩
    rcases firstMatch?_eq_some_iff.mp searched with
      ⟨before, rule, after, split, missed, matched⟩
    refine ⟨before, rule, after, split, ?_, found, matched⟩
    intro earlier earlier_mem
    exact (misses_iff.mpr (missed earlier earlier_mem)).1
  · rintro ⟨before, rule, after, rfl, safe, found, matched⟩
    -- an earlier rule that matches ends the search there, so the match found need not be this
    -- rule's
    induction before with
    | nil => exact ⟨found, by simp [firstMatch?, matched, bind, Except.bind, pure, Except.pure]⟩
    | cons first before ih =>
        rcases tried : first.match? entry with failure | verdict
        · exact absurd ⟨failure, tried⟩ (safe first (by simp))
        · cases verdict with
          | some early =>
              exact ⟨early, by simp [firstMatch?, tried, bind, Except.bind, pure, Except.pure]⟩
          | none =>
              rcases ih fun earlier earlier_mem => safe earlier (by simp [earlier_mem]) with
                ⟨late, searched⟩
              refine ⟨late, ?_⟩
              rw [List.cons_append, firstMatch?, tried]
              exact searched

/-- A search fails exactly with the failure of a rule behind rules that miss. -/
theorem firstMatch?_eq_error_iff {failure : Failure} :
    firstMatch? entry rules = .error failure ↔ FirstFailure entry rules failure := by
  induction rules with
  | nil => simp [firstMatch?, FirstFailure]
  | cons first rest ih =>
      simp only [firstMatch?, bind, Outcome.bind_eq_error_iff]
      constructor
      · rintro (failed | ⟨verdict, tried, continued⟩)
        · exact ⟨[], first, rest, rfl, by simp, failed⟩
        · cases verdict with
          | some found => cases continued
          | none =>
              rcases ih.mp continued with ⟨before, rule, after, rfl, missed, failed⟩
              refine ⟨first :: before, rule, after, rfl, ?_, failed⟩
              exact List.forall_mem_cons.mpr ⟨misses_iff.mpr tried, missed⟩
      · rintro ⟨before, rule, after, split, missed, failed⟩
        cases before with
        | nil =>
            cases split
            exact Or.inl failed
        | cons earlier before =>
            cases split
            rcases List.forall_mem_cons.mp missed with ⟨missedFirst, missedRest⟩
            right
            exact ⟨none, misses_iff.mp missedFirst,
              ih.mpr ⟨before, rule, after, rfl, missedRest, failed⟩⟩

end Rule

namespace RuleSet

variable {rules : RuleSet} {entry : Entry}

theorem exists_evaluate_eq_some_iff :
    (∃ result, (rules.evaluate entry).outcome = .ok (some result)) ↔
      (∀ rule ∈ rules.deny, rule.Misses entry) ∧ Rule.SomeMatches entry rules.accept := by
  rw [← Rule.firstMatch?_eq_none_iff_misses, ← Rule.exists_firstMatch?_eq_some_iff]
  constructor
  · rintro ⟨result, evaluated⟩
    rcases evaluate_eq_some_iff.mp evaluated with ⟨found, judged, _⟩
    rcases judge_eq_accepted_iff.mp judged with ⟨notDenied, accepted⟩
    exact ⟨notDenied, found, accepted⟩
  · rintro ⟨notDenied, found, accepted⟩
    have judged := judge_eq_accepted_iff.mpr ⟨notDenied, accepted⟩
    exact ⟨_, evaluate_eq_some_iff.mpr ⟨found, judged, rfl⟩⟩

theorem info_of_evaluate {result : Entry}
    (evaluated : (rules.evaluate entry).outcome = .ok (some result)) :
    ∃ found, Rule.FirstMatch entry rules.accept found ∧
      result = { entry with info := found.info } := by
  rcases evaluate_eq_some_iff.mp evaluated with ⟨found, judged, same⟩
  rcases judge_eq_accepted_iff.mp judged with ⟨_, accepted⟩
  exact ⟨found, Rule.firstMatch_of_firstMatch? accepted, same⟩

/-- The outcome of an evaluation, by the outcomes of the two searches. -/
theorem evaluate_outcome :
    (rules.evaluate entry).outcome =
      match Rule.firstMatch? entry rules.deny with
      | .error failure => .error failure
      | .ok (some _) => .ok none
      | .ok none =>
          (Rule.firstMatch? entry rules.accept).map fun found =>
            found.map fun found => { entry with info := found.info } := by
  rw [evaluate, Logged.outcome_bind, Logged.outcome_ofExcept, judge]
  rcases Rule.firstMatch? entry rules.deny with failure | denied
  · rfl
  · cases denied with
    | some found => rfl
    | none =>
        rcases Rule.firstMatch? entry rules.accept with failure | accepted
        · rfl
        · cases accepted <;> rfl

theorem evaluate_eq_none_iff :
    (rules.evaluate entry).outcome = .ok none ↔
      Rule.SomeMatches entry rules.deny ∨
        (∀ rule ∈ rules.deny, rule.Misses entry) ∧
          ∀ rule ∈ rules.accept, rule.Misses entry := by
  rw [← Rule.exists_firstMatch?_eq_some_iff, ← Rule.firstMatch?_eq_none_iff_misses,
    ← Rule.firstMatch?_eq_none_iff_misses, evaluate_outcome]
  rcases Rule.firstMatch? entry rules.deny with failure | denied
  · simp
  · cases denied with
    | some found => simp
    | none =>
        rcases Rule.firstMatch? entry rules.accept with failure | accepted
        · simp [Except.map]
        · simp [Except.map]

theorem evaluate_eq_error_iff {failure : Failure} :
    (rules.evaluate entry).outcome = .error failure ↔
      Rule.FirstFailure entry rules.deny failure ∨
        (∀ rule ∈ rules.deny, rule.Misses entry) ∧
          Rule.FirstFailure entry rules.accept failure := by
  rw [← Rule.firstMatch?_eq_error_iff, ← Rule.firstMatch?_eq_error_iff,
    ← Rule.firstMatch?_eq_none_iff_misses, evaluate_outcome]
  rcases Rule.firstMatch? entry rules.deny with failure | denied
  · simp
  · cases denied with
    | some found => simp
    | none =>
        rcases Rule.firstMatch? entry rules.accept with failure | accepted
        · simp [Except.map]
        · simp [Except.map]

end RuleSet

namespace Filter

end Filter

end ReleaseWatch
