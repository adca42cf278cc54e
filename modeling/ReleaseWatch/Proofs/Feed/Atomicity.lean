import ReleaseWatch.Proofs.Feed.Decision

/-!
# Refreshing all or nothing

A refresh that fails before its decision has changed nothing and called nobody. Behind the
decision the feed state is that of an update with the same items, whatever the rules made of them
and however the saver ends.
-/

namespace ReleaseWatch

namespace Processor

variable {World : Type}

/-- The ways in which a refresh fails before its decision, by what the source answered. -/
inductive FailsEarly (processor : Processor) : Except Failure (List Item) → Failure → Prop
  | fetching (failure : Failure) : FailsEarly processor (.error failure) failure
  | deciding {items : List Item} {failure : Failure}
      (undecided : processor.FailsToDecide items failure) :
      FailsEarly processor (.ok items) failure

/--
A refresh either fails early, and then nothing has changed and the saver was not called; or it
decides, and then the state is the updated one, and the saver was called with the selected entries
in the order of their numbers, up to the first one that it failed on.
-/
theorem observe_atomic (processor : Processor) (source : Source World) (saver : Saver World)
    (url : String) (scene : Scene World) :
    let (refreshed, reached) := processor.observe source saver url scene
    (∃ failure, processor.FailsEarly (source url scene.world).1 failure ∧
      refreshed.outcome = .error failure ∧ refreshed.processor = processor ∧
      reached.calls = scene.calls) ∨
    ∃ items selection calls outcome, (source url scene.world).1 = .ok items ∧
      processor.Decides items selection ∧
      refreshed.processor.filter = processor.filter ∧
      refreshed.processor.state = (processor.state.update items).1 ∧
      refreshed.outcome = Except.map (fun _ => selection.selected) outcome ∧
      reached.calls = scene.calls ++ calls ∧
      Delivery.Covers selection.selected calls outcome ∧
      selection.selected.Pairwise Entry.Precedes := by
  cases fetched : (source url scene.world).1 with
  | error failure =>
      rw [observe_of_unfetched fetched]
      exact Or.inl ⟨failure, .fetching failure, rfl, rfl, rfl⟩
  | ok items =>
      cases decided : (processor.select items).outcome with
      | error failure =>
          rw [observe_of_undecided fetched decided]
          have undecided := failsToDecide_of_select decided
          exact Or.inl ⟨failure, .deciding undecided, rfl, rfl, rfl⟩
      | ok selection =>
          rw [observe_of_decided fetched decided]
          right
          have decides := decides_of_select decided
          have updated := FeedState.update_of_stage decides.staging
          have delivered := Delivery.covers saver selection.selected (source url scene.world).2
          exact ⟨items, selection, _, _, rfl, decides, rfl, updated.symm, rfl, rfl, delivered,
            decides.selected_sorted⟩

end Processor

end ReleaseWatch
