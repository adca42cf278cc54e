import ReleaseWatch.Log

/-!
# Outcomes of composed steps

A step that is followed by another one comes to a value exactly when both do, and it fails
exactly when the first fails or the second one fails on what the first gave. With these
equivalences a computation is taken apart step by step without being unfolded; the log that it
writes plays no part in them.
-/

namespace ReleaseWatch

namespace Outcome

variable {α β : Type}

@[simp]
theorem bind_ok (value : α) (next : α → Except Failure β) :
    (Except.ok value).bind next = next value := rfl

@[simp]
theorem bind_error (failure : Failure) (next : α → Except Failure β) :
    (Except.error failure).bind next = .error failure := rfl

/-- Two steps come to a value exactly when the second one does on what the first came to. -/
theorem bind_eq_ok_iff {first : Except Failure α} {next : α → Except Failure β} {value : β} :
    first.bind next = .ok value ↔ ∃ middle, first = .ok middle ∧ next middle = .ok value := by
  cases first with
  | error failure => simp [Except.bind]
  | ok middle => simp [Except.bind]

theorem bind_eq_error_iff {first : Except Failure α} {next : α → Except Failure β}
    {failure : Failure} :
    first.bind next = .error failure ↔
      first = .error failure ∨ ∃ middle, first = .ok middle ∧
      next middle = .error failure := by
  cases first with
  | error failure => simp [Except.bind]
  | ok middle => simp [Except.bind]

theorem eq_ok_of_toOption {outcome : Except Failure α} {value : α}
    (isValue : outcome.toOption = some value) :
    outcome = .ok value := by
  cases outcome with
  | error failure => cases isValue
  | ok other =>
      cases isValue
      rfl

/-- The failure that an outcome is, if it is one. -/
def failure? : Except Failure α → Option Failure
  | .ok _ => none
  | .error failure => some failure

theorem eq_error_of_failure? {outcome : Except Failure α} {failure : Failure}
    (isFailure : failure? outcome = some failure) :
    outcome = .error failure := by
  cases outcome with
  | ok value => cases isFailure
  | error other =>
      cases isFailure
      rfl

theorem exists_eq_ok_iff {outcome : Except Failure α} :
    (∃ value, outcome = .ok value) ↔ ∀ failure, outcome ≠ .error failure := by
  cases outcome <;> simp

/-- A step that fails exactly without a condition comes to a value exactly under the condition. -/
theorem exists_eq_ok_iff_of_eq_error_iff {outcome : Except Failure α} {condition : Prop}
    {reason : Failure}
    (fails : ∀ failure, outcome = .error failure ↔ ¬condition ∧ failure = reason) :
    (∃ value, outcome = .ok value) ↔ condition := by
  simp only [exists_eq_ok_iff, ne_eq, fails]
  by_cases holds : condition <;> simp [holds]

theorem map_eq_ok_iff {first : Except Failure α} {change : α → β} {value : β} :
    first.map change = .ok value ↔ ∃ middle, first = .ok middle ∧ change middle = value := by
  cases first with
  | error failure => simp [Except.map]
  | ok middle => simp [Except.map]

/-- An outcome fails, if it does, in one of the allowed ways. -/
def FailsWithin (allowed : Failure → Prop) (outcome : Except Failure α) : Prop :=
  ∀ failure, outcome = .error failure → allowed failure

theorem failsWithin_ok {allowed : Failure → Prop} {value : α} :
    FailsWithin allowed (.ok value) := by
  intro failure impossible
  cases impossible

theorem FailsWithin.bind {allowed : Failure → Prop} {first : Except Failure α}
    {next : α → Except Failure β} (firstFails : FailsWithin allowed first)
    (nextFails : ∀ value, FailsWithin allowed (next value)) :
    FailsWithin allowed (first >>= next) := by
  intro failure failed
  rcases bind_eq_error_iff.mp failed with failed | ⟨value, -, failed⟩
  · exact firstFails failure failed
  · exact nextFails value failure failed

end Outcome

namespace Logged

variable {α β : Type}

theorem outcome_bind_eq_ok_iff {first : Logged α} {next : α → Logged β} {value : β} :
    (first >>= next).outcome = .ok value ↔
      ∃ middle, first.outcome = .ok middle ∧ (next middle).outcome = .ok value := by
  rw [outcome_bind, Outcome.bind_eq_ok_iff]

theorem outcome_bind_eq_error_iff {first : Logged α} {next : α → Logged β}
    {failure : Failure} :
    (first >>= next).outcome = .error failure ↔
      first.outcome = .error failure ∨
        ∃ middle, first.outcome = .ok middle ∧ (next middle).outcome = .error failure := by
  rw [outcome_bind, Outcome.bind_eq_error_iff]

/-- Two steps come to a value if the first one does, and the second one does on whatever that is. -/
theorem exists_outcome_bind {first : Logged α} {next : α → Logged β}
    (succeeds : ∃ middle, first.outcome = .ok middle)
    (continues : ∀ middle, first.outcome = .ok middle →
      ∃ value, (next middle).outcome = .ok value) :
    ∃ value, (first >>= next).outcome = .ok value := by
  rcases succeeds with ⟨middle, succeeded⟩
  rcases continues middle succeeded with ⟨value, continued⟩
  exact ⟨value, outcome_bind_eq_ok_iff.mpr ⟨middle, succeeded, continued⟩⟩

end Logged

end ReleaseWatch
