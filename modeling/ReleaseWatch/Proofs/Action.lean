import ReleaseWatch.Failure

/-!
# Performing actions

An action on a world that is kept in memory is a function of that world. It comes to a value or
to a failure and leaves a world behind, on which the action after it is performed; after a
failure there is none.
-/

namespace ReleaseWatch

variable {World α β : Type}

theorem run_bind_eq (action : StateM World α) (next : α → StateM World β) (world : World) :
    (action >>= next).run world = (next (action.run world).1).run (action.run world).2 := rfl

/-- What an action comes to on a world, and the world after it. -/
def perform (action : ExceptT Failure (StateM World) α) (world : World) :
    Except Failure α × World :=
  action.run.run world

section Perform

variable {action : ExceptT Failure (StateM World) α}
    {next : α → ExceptT Failure (StateM World) β}
  {world reached : World} {value : α} {failure : Failure}

theorem perform_bind (action : ExceptT Failure (StateM World) α)
    (next : α → ExceptT Failure (StateM World) β) (world : World) :
    perform (action >>= next) world =
      match perform action world with
      | (.ok value, reached) => perform (next value) reached
      | (.error failure, reached) => (.error failure, reached) := by
  have unfolded : perform (action >>= next) world =
      (ExceptT.bindCont next (perform action world).1).run (perform action world).2 := rfl
  rw [unfolded]
  rcases perform action world with ⟨outcome, reached⟩
  cases outcome <;> rfl

theorem perform_bind_of_ok (performed : perform action world = (.ok value, reached)) :
    perform (action >>= next) world = perform (next value) reached := by
  rw [perform_bind, performed]

theorem perform_bind_of_error (performed : perform action world = (.error failure, reached)) :
    perform (action >>= next) world = (.error failure, reached) := by
  rw [perform_bind, performed]

/-- Actions after each other come to a value exactly when each of them does. -/
theorem perform_bind_eq_ok_iff {result : β} :
    perform (action >>= next) world = (.ok result, reached) ↔
      ∃ value between, perform action world = (.ok value, between) ∧
        perform (next value) between = (.ok result, reached) := by
  rw [perform_bind]
  rcases perform action world with ⟨outcome, between⟩
  cases outcome with
  | error failure => simp
  | ok value =>
      constructor
      · intro performed
        exact ⟨value, between, rfl, performed⟩
      · rintro ⟨_, _, same, performed⟩
        cases same
        exact performed

theorem perform_lift (action : StateM World α) (world : World) :
    perform (ExceptT.lift action) world = (.ok (action.run world).1, (action.run world).2) := rfl

theorem perform_liftM (action : StateM World α) (world : World) :
    perform (liftM action) world = (.ok (action.run world).1, (action.run world).2) := rfl

end Perform

/-- An action keeps a property of the world, whether it comes to a value or to a failure. -/
def Keeps (holds : World → Prop) (action : ExceptT Failure (StateM World) α) : Prop :=
  ∀ world, holds world → holds (perform action world).2

namespace Keeps

variable {holds : World → Prop} {action : ExceptT Failure (StateM World) α}
  {next : α → ExceptT Failure (StateM World) β}

theorem reached (kept : Keeps holds action) {world reached : World} {outcome : Except Failure α}
    (performed : perform action world = (outcome, reached)) (before : holds world) :
    holds reached := by
  have after := kept world before
  rw [performed] at after
  exact after

theorem ofOutcome (outcome : Except Failure α) :
    Keeps holds (ExceptT.mk (pure outcome) : ExceptT Failure (StateM World) α) := by
  intro world kept
  exact kept

theorem bind (first : Keeps holds action) (second : ∀ value, Keeps holds (next value)) :
    Keeps holds (action >>= next) := by
  intro world kept
  have between := first world kept
  rw [perform_bind]
  generalize perform action world = ran at between
  rcases ran with ⟨outcome, reached⟩
  cases outcome with
  | error failure => exact between
  | ok value => exact second value reached between

theorem bindOutcome {outcome : Except Failure α}
    (second : ∀ value, outcome = .ok value → Keeps holds (next value)) :
    Keeps holds ((ExceptT.mk (pure outcome) : ExceptT Failure (StateM World) α) >>= next) := by
  cases outcome with
  | error failure => exact ofOutcome (.error failure)
  | ok value => exact second value rfl

theorem liftM {action : StateM World α}
    (kept : ∀ world, holds world → holds (action.run world).2) :
    Keeps holds (MonadLiftT.monadLift action : ExceptT Failure (StateM World) α) :=
  kept

end Keeps

end ReleaseWatch
