import Mathlib
import ReleaseWatch.Proofs.Feed.Consistency

/-!
# Histories of a feed state

Staging and committing are separate requests, and what was staged can be committed much later,
behind other commits, or a second time. A history is a feed state together with what has happened
to it: the lists that stagings returned, and the states that commits started from. Whatever is
requested in whatever order, the parts of the state agree; they agree strictly as long as every
committed list was returned by a staging.
-/

namespace ReleaseWatch

/-- What can be requested of a feed state. -/
inductive FeedRequest where
  | update (items : List Item)
  | stage (items : List Item)
  | commit (entries : List NumberedEntry)

/-- A feed state and what has happened to it. -/
structure FeedHistory where
  state : FeedState := {}
  /-- The lists that stagings returned, those of updates included. -/
  staged : List (List NumberedEntry) := []
  /-- The states that commits started from, the latest last. -/
  committed : List FeedState := []

namespace FeedHistory

/-- The history after one more request. -/
def step (history : FeedHistory) : FeedRequest → FeedHistory
  | .update items =>
      let (state, staging) := history.state.update items
      match staging.outcome with
      | .ok staged =>
          { state
            staged := history.staged ++ [staged]
            committed := history.committed ++ [history.state] }
      | .error _ => { history with state }
  | .stage items =>
      match (history.state.stage items).outcome with
      | .ok staged => { history with staged := history.staged ++ [staged] }
      | .error _ => history
  | .commit entries =>
      { history with
        state := history.state.commit entries
        committed := history.committed ++ [history.state] }

/-- The history after requests one after the other. -/
def run (history : FeedHistory) (requests : List FeedRequest) : FeedHistory :=
  requests.foldl step history

/-- Every commit among the requests is one of a list that a staging has returned before. -/
def CommitsStaged (history : FeedHistory) : List FeedRequest → Prop
  | [] => True
  | request :: rest =>
      (∀ entries, request = .commit entries → entries ∈ history.staged) ∧
        (history.step request).CommitsStaged rest

/-- The watermark before the latest commit, or -1 without one. -/
def watermarkBefore (history : FeedHistory) : Int :=
  (history.committed.getLast?.map (·.watermark)).getD (-1)

/-- The ways in which a request changes a history. -/
inductive StepsTo (history : FeedHistory) : FeedRequest → FeedHistory → Prop
  | notStaged {items : List Item} {failure : Failure}
      (staging : (history.state.stage items).outcome = .error failure) :
      StepsTo history (.stage items) history
  | notUpdated {items : List Item} {failure : Failure}
      (staging : (history.state.stage items).outcome = .error failure) :
      StepsTo history (.update items) history
  | staged {items : List Item} {staged : List NumberedEntry}
      (staging : (history.state.stage items).outcome = .ok staged) :
      StepsTo history (.stage items) { history with staged := history.staged ++ [staged] }
  | committed (entries : List NumberedEntry) :
      StepsTo history (.commit entries)
        { history with
          state := history.state.commit entries
          committed := history.committed ++ [history.state] }
  | updated {items : List Item} {staged : List NumberedEntry}
      (staging : (history.state.stage items).outcome = .ok staged) :
      StepsTo history (.update items)
        { state := history.state.commit staged
          staged := history.staged ++ [staged]
          committed := history.committed ++ [history.state] }

theorem stepsTo_step (history : FeedHistory) (request : FeedRequest) :
    history.StepsTo request (history.step request) := by
  cases request with
  | commit entries => exact .committed entries
  | stage items =>
      cases staging : (history.state.stage items).outcome with
      | error failure =>
          simp only [step, staging]
          exact .notStaged staging
      | ok staged =>
          simp only [step, staging]
          exact .staged staging
  | update items =>
      cases staging : (history.state.stage items).outcome with
      | error failure =>
          simp only [step, FeedState.update, staging]
          exact .notUpdated staging
      | ok staged =>
          simp only [step, FeedState.update, staging]
          exact .updated staging

theorem StepsTo.watermark_le {history later : FeedHistory} {request : FeedRequest}
    (steps : history.StepsTo request later) :
    history.state.watermark ≤ later.state.watermark := by
  cases steps with
  | notStaged staging => exact Int.le_refl _
  | notUpdated staging => exact Int.le_refl _
  | staged staging => exact Int.le_refl _
  | committed entries => exact history.state.watermark_le_commit entries
  | updated staging => exact history.state.watermark_le_commit _

theorem watermark_le_run (history : FeedHistory) (requests : List FeedRequest) :
    history.state.watermark ≤ (history.run requests).state.watermark := by
  induction requests generalizing history with
  | nil => exact Int.le_refl _
  | cons request rest ih =>
      exact Int.le_trans (history.stepsTo_step request).watermark_le (ih (history.step request))

/-- What holds of a history whatever is requested. -/
structure Sound (history : FeedHistory) : Prop where
  consistent : history.state.Consistent
  previous_eq : history.state.previousWatermark = history.watermarkBefore
  staged_sorted : ∀ staged ∈ history.staged, staged.Pairwise NumberedEntry.Precedes

namespace Sound

theorem initial : Sound {} where
  consistent := .initial
  previous_eq := rfl
  staged_sorted := by simp

variable {history later : FeedHistory} {request : FeedRequest}

/-- One more staged list is sorted like the ones before. -/
theorem staged_sorted_append (sound : history.Sound) {items : List Item}
    {staged : List NumberedEntry} (staging : (history.state.stage items).outcome = .ok staged) :
    ∀ returned ∈ history.staged ++ [staged], returned.Pairwise NumberedEntry.Precedes := by
  intro returned returned_mem
  rcases List.mem_append.mp returned_mem with earlier | latest
  · exact sound.staged_sorted returned earlier
  · rw [List.mem_singleton.mp latest]
    exact FeedState.stage_strictlySorted staging

theorem stepsTo (sound : history.Sound) (steps : history.StepsTo request later) : later.Sound := by
  cases steps with
  | notStaged staging => exact sound
  | notUpdated staging => exact sound
  | staged staging =>
      exact ⟨sound.consistent, sound.previous_eq, sound.staged_sorted_append staging⟩
  | committed entries =>
      exact ⟨sound.consistent.commit entries, by simp [watermarkBefore], sound.staged_sorted⟩
  | updated staging =>
      exact ⟨sound.consistent.commit _, by simp [watermarkBefore],
        sound.staged_sorted_append staging⟩

/-- A commit of a list that a staging returned keeps the parts in strict agreement. -/
theorem strictlyConsistent_stepsTo (sound : history.Sound)
    (strict : history.state.StrictlyConsistent) (steps : history.StepsTo request later)
    (commitsStaged : ∀ entries, request = .commit entries → entries ∈ history.staged) :
    later.state.StrictlyConsistent := by
  cases steps with
  | notStaged staging => exact strict
  | notUpdated staging => exact strict
  | staged staging => exact strict
  | committed entries =>
      exact strict.commit (sound.staged_sorted entries (commitsStaged entries rfl))
  | updated staging => exact strict.commit (FeedState.stage_strictlySorted staging)

theorem run (sound : history.Sound) (requests : List FeedRequest) :
    (history.run requests).Sound := by
  induction requests generalizing history with
  | nil => exact sound
  | cons request rest ih => exact ih (sound.stepsTo (history.stepsTo_step request))

theorem strictlyConsistent_run (sound : history.Sound)
    (strict : history.state.StrictlyConsistent) {requests : List FeedRequest}
    (commitsStaged : history.CommitsStaged requests) :
    (history.run requests).state.StrictlyConsistent := by
  induction requests generalizing history with
  | nil => exact strict
  | cons request rest ih =>
      rcases commitsStaged with ⟨first, others⟩
      have steps := history.stepsTo_step request
      exact ih (sound.stepsTo steps) (sound.strictlyConsistent_stepsTo strict steps first) others

end Sound

/--
After any requests to a fresh feed state its parts agree, the previous watermark is the one before
the latest commit, and no further requests lower the watermark. If every commit was one of a list
that a staging had returned, the parts agree strictly.
-/
theorem run_consistent (requests : List FeedRequest) :
    let history := ({} : FeedHistory).run requests
    history.state.Consistent ∧
    history.state.previousWatermark = history.watermarkBefore ∧
    (∀ further, history.state.watermark ≤ (history.run further).state.watermark) ∧
    (({} : FeedHistory).CommitsStaged requests → history.state.StrictlyConsistent) := by
  intro history
  have sound := Sound.initial.run requests
  refine ⟨sound.consistent, sound.previous_eq, ?_, ?_⟩
  · exact watermark_le_run history
  · exact Sound.initial.strictlyConsistent_run .initial

end FeedHistory

namespace LateCommit

/-- Two items, the greater one first. -/
def items : List Item :=
  [{ guid := some "id=3" }, { guid := some "id=1" }]

/-- What staging makes of the items. -/
def staged : List NumberedEntry :=
  [({ guid := some "id=1" } : Item).numbered 1, ({ guid := some "id=3" } : Item).numbered 3]

/-- The items are staged, overtaken by an update, and then committed twice. -/
def requests : List FeedRequest :=
  [.stage items, .update [{ guid := some "id=2", category := some "film" }], .commit staged,
    .commit staged]

/-- Of a list that is committed late only what is still new is stored, and only once. -/
theorem run_consistent_of_lateCommit :
    let history := ({} : FeedHistory).run requests
    ({} : FeedHistory).CommitsStaged requests ∧ history.state.StrictlyConsistent ∧
    history.state.entries.map (·.number) = [2, 3] ∧ history.watermarkBefore = 3 := by
  intro history
  have overtaken : (({} : FeedHistory).run (requests.take 2)).staged.head? = some staged := by cbv
  have committed : (({} : FeedHistory).run (requests.take 3)).staged.head? = some staged := by cbv
  have commitsStaged : ({} : FeedHistory).CommitsStaged requests := by
    refine ⟨by simp, by simp, ?_, ?_, trivial⟩
    · rintro entries ⟨⟩
      exact List.mem_of_head? overtaken
    · rintro entries ⟨⟩
      exact List.mem_of_head? committed
  have consistent := FeedHistory.run_consistent requests
  exact ⟨commitsStaged, consistent.2.2.2 commitsStaged, by cbv, by cbv⟩

end LateCommit

end ReleaseWatch
