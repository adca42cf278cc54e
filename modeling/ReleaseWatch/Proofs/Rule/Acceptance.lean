import ReleaseWatch.Proofs.Entry.Order
import ReleaseWatch.Proofs.Outcome
import ReleaseWatch.Rule.Filter

/-!
# Which entries are accepted

The rules of a list are tried in order until one matches or fails. So an entry is accepted exactly
when every deny rule was tried and does not match, and some accept rule matches behind others that
do not; it then carries the info of that rule. Of several entries the accepted ones are kept in
their order, provided that every single one can be judged.
-/

namespace ReleaseWatch

namespace Rule

/-- A rule matches an entry. -/
def Matches (rule : Rule) (entry : Entry) : Prop :=
  ∃ found, rule.match? entry = .ok (some found)

theorem firstMatch?_eq_none_iff {entry : Entry} {rules : List Rule} :
    firstMatch? entry rules = .ok none ↔ ∀ rule ∈ rules, rule.match? entry = .ok none := by
  induction rules with
  | nil => simp [firstMatch?]
  | cons rule rest ih =>
      simp only [firstMatch?, bind, Outcome.bind_eq_ok_iff, List.forall_mem_cons]
      constructor
      · rintro ⟨found, tried, continued⟩
        cases found with
        | none => exact ⟨tried, ih.mp continued⟩
        | some found => cases continued
      · rintro ⟨tried, others⟩
        exact ⟨none, tried, ih.mpr others⟩

/-- The first match is that of a rule behind others that were tried without a match. -/
theorem firstMatch?_eq_some_iff {entry : Entry} {rules : List Rule} {found : RuleMatch} :
    firstMatch? entry rules = .ok (some found) ↔
      ∃ before rule after, rules = before ++ rule :: after ∧
        (∀ earlier ∈ before, earlier.match? entry = .ok none) ∧
        rule.match? entry = .ok (some found) := by
  induction rules with
  | nil => simp [firstMatch?]
  | cons rule rest ih =>
      simp only [firstMatch?, bind, Outcome.bind_eq_ok_iff]
      constructor
      · rintro ⟨first, tried, continued⟩
        cases first with
        | some first =>
            cases continued
            exact ⟨[], rule, rest, rfl, by simp, tried⟩
        | none =>
            rcases ih.mp continued with ⟨before, later, after, rfl, unmatched, matched⟩
            refine ⟨rule :: before, later, after, rfl, ?_, matched⟩
            simpa [tried] using unmatched
      · rintro ⟨before, later, after, split, unmatched, matched⟩
        cases before with
        | nil =>
            cases split
            exact ⟨some found, matched, rfl⟩
        | cons first before =>
            cases split
            refine ⟨none, unmatched rule (by simp), ih.mpr ?_⟩
            exact ⟨before, later, after, rfl,
              fun earlier earlier_mem => unmatched earlier (by simp [earlier_mem]), matched⟩

/-- A search that comes to an end finds the first rule that matches. -/
theorem firstMatch?_eq_of_split {entry : Entry} {before after : List Rule} {rule : Rule}
    {found : RuleMatch} {outcome : Option RuleMatch}
    (searched : firstMatch? entry (before ++ rule :: after) = .ok outcome)
    (unmatched : ∀ earlier ∈ before, ¬earlier.Matches entry)
    (matched : rule.match? entry = .ok (some found)) : outcome = some found := by
  induction before with
  | nil =>
      simp only [List.nil_append, firstMatch?, matched] at searched
      exact (Except.ok.inj searched).symm
  | cons earlier before ih =>
      rcases Outcome.bind_eq_ok_iff.mp searched with ⟨first, tried, continued⟩
      cases first with
      | some first => exact absurd ⟨first, tried⟩ (unmatched earlier (by simp))
      | none =>
          exact ih continued fun other other_mem => unmatched other (by simp [other_mem])

end Rule

namespace RuleSet

/--
A rule set lets an entry pass, and makes another one of it: no deny rule matches the entry, and
the result has the info of the first accept rule that does.
-/
def Admits (rules : RuleSet) (entry result : Entry) : Prop :=
  (∀ rule ∈ rules.deny, ¬rule.Matches entry) ∧
    ∃ before rule after found, rules.accept = before ++ rule :: after ∧
      (∀ earlier ∈ before, ¬earlier.Matches entry) ∧
      rule.match? entry = .ok (some found) ∧ result = { entry with info := found.info }

/-- What comes of an entry that can be judged. -/
def passed? (rules : RuleSet) (entry : Entry) : Option Entry :=
  (rules.evaluate entry).outcome.toOption.join

theorem judge_eq_accepted_iff {rules : RuleSet} {entry : Entry} {found : RuleMatch} :
    rules.judge entry = .ok (.accepted found) ↔
      Rule.firstMatch? entry rules.deny = .ok none ∧
        Rule.firstMatch? entry rules.accept = .ok (some found) := by
  simp only [judge, bind, Outcome.bind_eq_ok_iff]
  constructor
  · rintro ⟨denied, searched, continued⟩
    cases denied with
    | some denied => cases continued
    | none =>
        rcases Outcome.bind_eq_ok_iff.mp continued with ⟨accepted, searched', done⟩
        cases accepted with
        | none => cases done
        | some accepted =>
            cases done
            exact ⟨searched, searched'⟩
  · rintro ⟨searched, searched'⟩
    exact ⟨none, searched, Outcome.bind_eq_ok_iff.mpr ⟨some found, searched', rfl⟩⟩

theorem evaluate_eq_some_iff {rules : RuleSet} {entry result : Entry} :
    (rules.evaluate entry).outcome = .ok (some result) ↔
      ∃ found, rules.judge entry = .ok (.accepted found) ∧
        result = { entry with info := found.info } := by
  rw [evaluate, Logged.outcome_bind_eq_ok_iff]
  constructor
  · rintro ⟨verdict, judged, settled⟩
    cases verdict with
    | denied found => cases settled
    | ignored => cases settled
    | accepted found =>
        cases settled
        exact ⟨found, judged, rfl⟩
  · rintro ⟨found, judged, rfl⟩
    exact ⟨.accepted found, judged, rfl⟩

theorem admits_of_evaluate {rules : RuleSet} {entry result : Entry}
    (evaluated : (rules.evaluate entry).outcome = .ok (some result)) :
    rules.Admits entry result := by
  rcases evaluate_eq_some_iff.mp evaluated with ⟨found, judged, rfl⟩
  rcases judge_eq_accepted_iff.mp judged with ⟨notDenied, accepted⟩
  constructor
  · rintro rule rule_mem ⟨match_, matched⟩
    rw [Rule.firstMatch?_eq_none_iff.mp notDenied rule rule_mem] at matched
    cases matched
  · rcases Rule.firstMatch?_eq_some_iff.mp accepted with
      ⟨before, rule, after, split, unmatched, matched⟩
    refine ⟨before, rule, after, found, split, ?_, matched, rfl⟩
    rintro earlier earlier_mem ⟨match_, matched'⟩
    rw [unmatched earlier earlier_mem] at matched'
    cases matched'

/-- An admitted entry is accepted, if it can be judged at all. -/
theorem evaluate_of_admits {rules : RuleSet} {entry result : Entry} {verdict : Option Entry}
    (evaluated : (rules.evaluate entry).outcome = .ok verdict)
    (admitted : rules.Admits entry result) : verdict = some result := by
  rcases admitted with ⟨notDenied, before, rule, after, found, split, unmatched, matched, rfl⟩
  rcases Logged.outcome_bind_eq_ok_iff.mp evaluated with ⟨judgement, judged, settled⟩
  rcases Outcome.bind_eq_ok_iff.mp judged with ⟨denied, searched, judged⟩
  -- a denial would come from a deny rule that matches, and there is none
  cases denied with
  | some denial =>
      rcases Rule.firstMatch?_eq_some_iff.mp searched with ⟨_, rule, _, split, _, matched⟩
      exact absurd ⟨denial, matched⟩ (notDenied rule (by simp [split]))
  | none =>
      rcases Outcome.bind_eq_ok_iff.mp judged with ⟨accepted, searched', judged⟩
      rw [split] at searched'
      cases Rule.firstMatch?_eq_of_split searched' unmatched matched
      cases judged
      exact (Except.ok.inj settled).symm

theorem id_eq_of_admits {rules : RuleSet} {entry result : Entry}
    (admitted : rules.Admits entry result) :
    result.id = entry.id := by
  rcases admitted with ⟨_, _, _, _, _, _, _, _, rfl⟩
  rfl

/-- Entries are accepted exactly if every one can be judged; those that pass are kept in order. -/
theorem accepted_eq_ok_iff {rules : RuleSet} {entries result : List Entry} :
    (rules.accepted entries).outcome = .ok result ↔
      (∀ entry ∈ entries, ∃ verdict, (rules.evaluate entry).outcome = .ok verdict) ∧
        result = entries.filterMap rules.passed? := by
  induction entries generalizing result with
  | nil => simp [accepted, eq_comm]
  | cons entry rest ih =>
      rw [accepted, Logged.outcome_bind_eq_ok_iff, List.forall_mem_cons]
      constructor
      · rintro ⟨verdict, evaluated, continued⟩
        rcases Logged.outcome_bind_eq_ok_iff.mp continued with ⟨others, acceptedRest, done⟩
        cases done
        rcases ih.mp acceptedRest with ⟨judged, rfl⟩
        refine ⟨⟨⟨verdict, evaluated⟩, judged⟩, ?_⟩
        cases verdict <;> simp [passed?, evaluated, Except.toOption]
      · rintro ⟨⟨⟨verdict, evaluated⟩, judged⟩, rfl⟩
        refine ⟨verdict, evaluated, Logged.outcome_bind_eq_ok_iff.mpr ?_⟩
        refine ⟨rest.filterMap rules.passed?, ih.mpr ⟨judged, rfl⟩, ?_⟩
        cases verdict <;> simp [passed?, evaluated, Except.toOption]

/-- The accepted entries are the admitted ones. -/
theorem mem_accepted_iff {rules : RuleSet} {entries result : List Entry}
    (done : (rules.accepted entries).outcome = .ok result) (entry : Entry) :
    entry ∈ result ↔ ∃ source ∈ entries, rules.Admits source entry := by
  rcases accepted_eq_ok_iff.mp done with ⟨judged, rfl⟩
  rw [List.mem_filterMap]
  apply exists_congr
  intro source
  apply and_congr_right
  intro source_mem
  rcases judged source source_mem with ⟨verdict, evaluated⟩
  have passed : rules.passed? source = verdict := by
    cases verdict <;> simp [passed?, evaluated, Except.toOption]
  rw [passed]
  constructor
  · rintro rfl
    exact admits_of_evaluate evaluated
  · exact evaluate_of_admits evaluated

theorem accepted_sorted {rules : RuleSet} {entries result : List Entry}
    (done : (rules.accepted entries).outcome = .ok result)
    (sorted : entries.Pairwise Entry.Precedes) : result.Pairwise Entry.Precedes := by
  rcases accepted_eq_ok_iff.mp done with ⟨judged, rfl⟩
  have keepsId : ∀ source ∈ entries, ∀ entry, rules.passed? source = some entry →
      entry.id = source.id := by
    intro source source_mem entry passed
    rcases judged source source_mem with ⟨verdict, evaluated⟩
    cases verdict with
    | none => simp [passed?, evaluated, Except.toOption] at passed
    | some result =>
        simp only [passed?, evaluated, Except.toOption, Option.join_some, Option.some.injEq]
          at passed
        subst passed
        exact id_eq_of_admits (admits_of_evaluate evaluated)
  rw [List.pairwise_filterMap]
  apply sorted.imp_of_mem
  intro left right left_mem right_mem precedes passedLeft left_passed passedRight right_passed
  simp only [Entry.Precedes] at precedes ⊢
  rw [keepsId left left_mem passedLeft left_passed,
    keepsId right right_mem passedRight right_passed]
  exact precedes

end RuleSet

end ReleaseWatch
