import ReleaseWatch.Proofs.Entry.BestVersion
import ReleaseWatch.Proofs.Feed.Scene
import ReleaseWatch.Proofs.Feed.Staging
import ReleaseWatch.Proofs.Rule.Acceptance
import Mathlib.Logic.ExistsUnique

/-!
# What a refresh decides

Before anything changes, a refresh stages the items, filters what is new, and selects among what
was accepted. `Processor.Decides` and `Processor.FailsToDecide` name the ways through these
stages. The decision can be told from the items as a whole: the candidates are the new entries
that the rules admit, and selected are those candidates that are no versions of an episode, and
the best version of each episode.
-/

namespace ReleaseWatch

namespace Processor

/-- The ways in which a refresh comes to a decision about items. -/
inductive Decides (processor : Processor) (items : List Item) : Selection → Prop
  | nothingNew (staging : (processor.state.stage items).outcome = .ok []) :
      Decides processor items { staged := [], selected := [] }
  | someNew {staged : List NumberedEntry} {accepted selected : List Entry}
      (staging : (processor.state.stage items).outcome = .ok staged) (found : staged ≠ [])
      (filtering : (processor.filter.accept (staged.map (·.entry))).outcome = .ok accepted)
      (selecting : (selectBest processor.filter.active.tieBreak accepted).outcome = .ok selected) :
      Decides processor items { staged, selected }

/-- The ways in which a refresh fails to decide about items. -/
inductive FailsToDecide (processor : Processor) (items : List Item) : Failure → Prop
  | staging {failure : Failure} (staging : (processor.state.stage items).outcome = .error failure) :
      FailsToDecide processor items failure
  | filtering {staged : List NumberedEntry} {failure : Failure}
      (staging : (processor.state.stage items).outcome = .ok staged) (found : staged ≠ [])
      (filtering : (processor.filter.accept (staged.map (·.entry))).outcome = .error failure) :
      FailsToDecide processor items failure
  | selecting {staged : List NumberedEntry} {accepted : List Entry} {failure : Failure}
      (staging : (processor.state.stage items).outcome = .ok staged) (found : staged ≠ [])
      (filtering : (processor.filter.accept (staged.map (·.entry))).outcome = .ok accepted)
      (selecting :
        (selectBest processor.filter.active.tieBreak accepted).outcome = .error failure) :
      FailsToDecide processor items failure

theorem decides_of_select {processor : Processor} {items : List Item} {selection : Selection}
    (decided : (processor.select items).outcome = .ok selection) :
    processor.Decides items selection := by
  rcases Logged.outcome_bind_eq_ok_iff.mp decided with ⟨staged, staging, decided⟩
  rcases Logged.outcome_bind_eq_ok_iff.mp decided with ⟨_, _, decided⟩
  cases staged with
  | nil =>
      cases decided
      exact .nothingNew staging
  | cons first rest =>
      rcases Logged.outcome_bind_eq_ok_iff.mp decided with ⟨accepted, filtering, decided⟩
      rcases Logged.outcome_bind_eq_ok_iff.mp decided with ⟨selected, selecting, decided⟩
      rcases Logged.outcome_bind_eq_ok_iff.mp decided with ⟨_, _, decided⟩
      cases decided
      exact .someNew staging (by simp) filtering selecting

theorem failsToDecide_of_select {processor : Processor} {items : List Item} {failure : Failure}
    (undecided : (processor.select items).outcome = .error failure) :
    processor.FailsToDecide items failure := by
  rcases Logged.outcome_bind_eq_error_iff.mp undecided with
    staging | ⟨staged, staging, undecided⟩
  · exact .staging staging
  rcases Logged.outcome_bind_eq_error_iff.mp undecided with impossible | ⟨_, _, undecided⟩
  · cases impossible
  cases staged with
  | nil => cases undecided
  | cons first rest =>
      rcases Logged.outcome_bind_eq_error_iff.mp undecided with
        filtering | ⟨accepted, filtering, undecided⟩
      · exact .filtering staging (by simp) filtering
      rcases Logged.outcome_bind_eq_error_iff.mp undecided with
        selecting | ⟨selected, selecting, undecided⟩
      · exact .selecting staging (by simp) filtering selecting
      rcases Logged.outcome_bind_eq_error_iff.mp undecided with impossible | ⟨_, _, undecided⟩
      · cases impossible
      · cases undecided

/--
The candidates among items: the new entries that
the active rules admit, with the info of the match.
-/
def IsCandidate (processor : Processor) (items : List Item) (entry : Entry) : Prop :=
  ∃ found, processor.state.IsNew items found ∧ processor.filter.active.Admits found.entry entry

namespace Decides

variable {processor : Processor} {items : List Item} {selection : Selection}

theorem staging (decides : processor.Decides items selection) :
    (processor.state.stage items).outcome = .ok selection.staged := by
  cases decides with
  | nothingNew staging => exact staging
  | someNew staging found filtering selecting => exact staging

/-- With nothing new, filtering and selecting would have come to nothing as well. -/
theorem exists_accepted (decides : processor.Decides items selection) :
    ∃ accepted,
      (processor.filter.active.accepted (selection.staged.map (·.entry))).outcome =
        .ok accepted ∧
      (selectBest processor.filter.active.tieBreak accepted).outcome = .ok selection.selected := by
  cases decides with
  | nothingNew staging => exact ⟨[], rfl, selectBest_nil _⟩
  | someNew staging found filtering selecting => exact ⟨_, filtering, selecting⟩

theorem staged_sorted (decides : processor.Decides items selection) :
    (selection.staged.map (·.entry)).Pairwise Entry.Precedes := by
  rw [List.pairwise_map]
  apply (FeedState.stage_strictlySorted decides.staging).imp
  intro left right precedes
  exact ⟨left.number, right.number, left.id_eq, right.id_eq, precedes⟩

/-- What was accepted are the candidates, sorted by number. -/
theorem exists_candidates (decides : processor.Decides items selection) :
    ∃ accepted, accepted.Pairwise Entry.Precedes ∧
      (∀ entry, entry ∈ accepted ↔ processor.IsCandidate items entry) ∧
      (selectBest processor.filter.active.tieBreak accepted).outcome = .ok selection.selected := by
  rcases decides.exists_accepted with ⟨accepted, filtering, selecting⟩
  refine ⟨accepted, RuleSet.accepted_sorted filtering decides.staged_sorted, ?_, selecting⟩
  intro entry
  rw [RuleSet.mem_accepted_iff filtering]
  constructor
  · rintro ⟨source, source_mem, admitted⟩
    rcases List.mem_map.mp source_mem with ⟨found, found_mem, rfl⟩
    exact ⟨found, (FeedState.mem_stage_iff decides.staging found).mp found_mem, admitted⟩
  · rintro ⟨found, isNew, admitted⟩
    have found_mem := (FeedState.mem_stage_iff decides.staging found).mpr isNew
    exact ⟨found.entry, List.mem_map_of_mem found_mem, admitted⟩

theorem selected_sorted (decides : processor.Decides items selection) :
    selection.selected.Pairwise Entry.Precedes := by
  rcases decides.exists_candidates with ⟨accepted, sorted, _, selecting⟩
  exact selectBest_sorted sorted selecting

/-- Selected are the candidates that are no versions, and the best versions among the candidates. -/
theorem mem_selected_iff (decides : processor.Decides items selection) (entry : Entry) :
    entry ∈ selection.selected ↔
      processor.IsCandidate items entry ∧ (entry.version? = none ∨
        Entry.IsBest (Info.tieBreakKeys processor.filter.active.tieBreak)
          (processor.IsCandidate items) entry) := by
  rcases decides.exists_candidates with ⟨accepted, sorted, candidates, selecting⟩
  have sameCandidates : (· ∈ accepted) = processor.IsCandidate items :=
    funext fun candidate => propext (candidates candidate)
  rw [mem_selectBest_iff sorted selecting, candidates, sameCandidates]

theorem existsUnique_selected (decides : processor.Decides items selection) {entry : Entry}
    (candidate : processor.IsCandidate items entry) {info : Info} (version : entry.IsVersion info) :
    ∃! best, best ∈ selection.selected ∧ best.SameEpisode entry := by
  rcases decides.exists_candidates with ⟨accepted, sorted, candidates, selecting⟩
  rcases exists_selected_of_isVersion sorted selecting ((candidates entry).mpr candidate)
    version with
    ⟨best, best_mem, bestEpisode⟩
  refine ⟨best, ⟨best_mem, bestEpisode⟩, ?_⟩
  rintro other ⟨other_mem, otherEpisode⟩
  exact eq_of_mem_selectBest sorted selecting other_mem best_mem
    (otherEpisode.trans bestEpisode.symm)

theorem selected_pairwise_not_sameEpisode (decides : processor.Decides items selection) :
    selection.selected.Pairwise fun left right => ¬left.SameEpisode right := by
  rcases decides.exists_candidates with ⟨accepted, sorted, _, selecting⟩
  exact selectBest_pairwise_not_sameEpisode sorted selecting

theorem exists_number_of_mem_selected (decides : processor.Decides items selection) {entry : Entry}
    (entry_mem : entry ∈ selection.selected) :
    ∃ found ∈ selection.staged, entry.id = some found.number := by
  rcases ((decides.mem_selected_iff entry).mp entry_mem).1 with ⟨found, isNew, admitted⟩
  refine ⟨found, (FeedState.mem_stage_iff decides.staging found).mpr isNew, ?_⟩
  rw [RuleSet.id_eq_of_admits admitted, found.id_eq]

end Decides

end Processor

end ReleaseWatch
