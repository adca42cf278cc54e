import ReleaseWatch.Proofs.Feed.Decision
import ReleaseWatch.Proofs.Feed.Watermark

/-!
# Runs of a processor

A processor in service is refreshed again and again; between refreshes its rules are reloaded and
its saver is replaced. Whatever fails on the way, the saver is called with ever greater numbers: a
refresh hands over numbers above the watermark only, in order, and then the watermark is at the
last of them or above.

`Service.Advances` is what is carried along a run. It is about two services, the earlier and the
later one, and holds of every step and of steps after each other.
-/

namespace ReleaseWatch

/--
Calls in the order of their numbers, all of which are above one bound and none above the other.
-/
structure AscendingCalls (low high : Int) (calls : List SaverCall) : Prop where
  sorted : (calls.map (·.entry)).Pairwise Entry.Precedes
  bounded : ∀ call ∈ calls, ∃ number, call.entry.id = some number ∧ low < number ∧
    number ≤ high

namespace AscendingCalls

variable {low middle high : Int} {calls others : List SaverCall}

theorem nil (low high : Int) : AscendingCalls low high [] where
  sorted := .nil
  bounded := by simp

theorem append (ascending : AscendingCalls low middle calls)
    (ascending' : AscendingCalls middle high others) (below : low ≤ middle)
    (below' : middle ≤ high) : AscendingCalls low high (calls ++ others) where
  sorted := by
    rw [List.map_append, List.pairwise_append]
    refine ⟨ascending.sorted, ascending'.sorted, ?_⟩
    intro left left_mem right right_mem
    rcases List.mem_map.mp left_mem with ⟨call, call_mem, rfl⟩
    rcases List.mem_map.mp right_mem with ⟨call', call'_mem, rfl⟩
    rcases ascending.bounded call call_mem with ⟨number, call_id, _, atMost⟩
    rcases ascending'.bounded call' call'_mem with ⟨number', call'_id, above, _⟩
    exact ⟨number, number', call_id, call'_id, by omega⟩
  bounded := by
    intro call call_mem
    rcases List.mem_append.mp call_mem with first_mem | other_mem
    · rcases ascending.bounded call first_mem with ⟨number, call_id, above, atMost⟩
      exact ⟨number, call_id, above, by omega⟩
    · rcases ascending'.bounded call other_mem with ⟨number, call_id, above, atMost⟩
      exact ⟨number, call_id, by omega, atMost⟩

theorem ids_nodup (ascending : AscendingCalls low high calls) :
    (calls.map (·.entry.id)).Nodup := by
  have sorted := ascending.sorted
  rw [List.pairwise_map] at sorted
  rw [List.Nodup, List.pairwise_map]
  apply sorted.imp
  rintro left right ⟨number, number', left_id, right_id, less⟩ same
  rw [left_id, right_id] at same
  cases same
  omega

end AscendingCalls

/-- What can happen to a processor in service. -/
inductive Step (World : Type) where
  | reload (settings : FilterSettings)
  | refresh (url : String)
  | setSaver (saver : Saver World)

/-- A processor in service, with its saver and the scene around it. -/
structure Service (World : Type) where
  processor : Processor
  saver : Saver World
  scene : Scene World

namespace Service

variable {World : Type}

/-- The service of a processor whose saver was not called yet. -/
def start (processor : Processor) (saver : Saver World) (world : World) : Service World :=
  { processor, saver, scene := { world } }

/-- Takes one step; the source is the same for all of them. -/
def step (source : Source World) (service : Service World) : Step World → Service World
  | .reload settings =>
      let (processor, rules) := service.processor.reload settings
      { service with
        processor
        scene := { service.scene with lines := service.scene.lines ++ rules.log } }
  | .refresh url =>
      let (refreshed, scene) := service.processor.observe source service.saver url service.scene
      { service with processor := refreshed.processor, scene }
  | .setSaver saver => { service with saver }

/-- Takes steps one after the other. -/
def run (source : Source World) (service : Service World) (steps : List (Step World)) :
    Service World :=
  steps.foldl (step source) service

/-- The watermark of what is known of the feed. -/
def watermark (service : Service World) : Int :=
  service.processor.state.watermark

/--
What a service has done since an earlier time: the watermark has not sunk, and the calls that were
made since are ascending from the old watermark to the new one.
-/
structure Advances (earlier later : Service World) : Prop where
  watermark_le : earlier.watermark ≤ later.watermark
  calls : ∃ calls, later.scene.calls = earlier.scene.calls ++ calls ∧
    AscendingCalls earlier.watermark later.watermark calls

namespace Advances

theorem of_sameCalls {earlier later : Service World}
    (sameWatermark : later.watermark = earlier.watermark)
    (sameCalls : later.scene.calls = earlier.scene.calls) : Advances earlier later where
  watermark_le := by omega
  calls := ⟨[], by simp [sameCalls], .nil _ _⟩

theorem trans {first second third : Service World} (advances : Advances first second)
    (advances' : Advances second third) : Advances first third where
  watermark_le := Int.le_trans advances.watermark_le advances'.watermark_le
  calls := by
    rcases advances.calls with ⟨calls, calls_eq, ascending⟩
    rcases advances'.calls with ⟨others, others_eq, ascending'⟩
    refine ⟨calls ++ others, by rw [others_eq, calls_eq, List.append_assoc], ?_⟩
    exact ascending.append ascending' advances.watermark_le advances'.watermark_le

end Advances

end Service

namespace Processor

variable {World : Type}

/-- The calls of a delivery ascend from the watermark before the commit to the one after it. -/
theorem Decides.ascendingCalls {processor : Processor} {items : List Item} {selection : Selection}
    (decides : processor.Decides items selection) {calls : List SaverCall}
    (called : calls.map (·.entry) <+: selection.selected) :
    AscendingCalls processor.state.watermark (processor.state.commit selection.staged).watermark
      calls where
  sorted := decides.selected_sorted.sublist called.sublist
  bounded := by
    intro call call_mem
    have selected_mem := called.subset (List.mem_map_of_mem call_mem)
    rcases decides.exists_number_of_mem_selected selected_mem with ⟨found, found_mem, call_id⟩
    have above := FeedState.watermark_lt_of_mem_stage decides.staging found_mem
    have atMost := processor.state.number_le_commit_watermark found_mem
    exact ⟨found.number, call_id, above, atMost⟩

/--
One refresh never lowers the watermark. Its calls ascend from the watermark before to the one
behind, and no two of them hand over versions of one episode.
-/
theorem observe_ascends (processor : Processor) (source : Source World) (saver : Saver World)
    (url : String) (scene : Scene World) :
    let (refreshed, reached) := processor.observe source saver url scene
    processor.state.watermark ≤ refreshed.processor.state.watermark ∧
    ∃ calls, reached.calls = scene.calls ++ calls ∧
      AscendingCalls processor.state.watermark refreshed.processor.state.watermark calls ∧
      (calls.map (·.entry)).Pairwise fun left right => ¬left.SameEpisode right := by
  cases fetched : (source url scene.world).1 with
  | error failure =>
      rw [observe_of_unfetched fetched]
      exact ⟨Int.le_refl _, [], by simp, .nil _ _, by simp⟩
  | ok items =>
      cases decided : (processor.select items).outcome with
      | error failure =>
          rw [observe_of_undecided fetched decided]
          exact ⟨Int.le_refl _, [], by simp, .nil _ _, by simp⟩
      | ok selection =>
          rw [observe_of_decided fetched decided]
          have decides := decides_of_select decided
          have called := Delivery.prefix_of_covers
            (Delivery.covers saver selection.selected (source url scene.world).2)
          have disjoint := decides.selected_pairwise_not_sameEpisode.sublist called.sublist
          exact ⟨processor.state.watermark_le_commit selection.staged, _, rfl,
            decides.ascendingCalls called, disjoint⟩

end Processor

namespace Service

variable {World : Type}

theorem advances_step (source : Source World) (service : Service World) (step : Step World) :
    Advances service (service.step source step) := by
  cases step with
  | reload settings =>
      apply Advances.of_sameCalls
      · rfl
      · rfl
  | refresh url =>
      have ascends := service.processor.observe_ascends source service.saver url service.scene
      rcases ascends with ⟨watermark_le, calls, calls_eq, ascending, _⟩
      exact ⟨watermark_le, calls, calls_eq, ascending⟩
  | setSaver saver =>
      apply Advances.of_sameCalls
      · rfl
      · rfl

theorem advances_run (source : Source World) (service : Service World)
    (steps : List (Step World)) : Advances service (service.run source steps) := by
  induction steps generalizing service with
  | nil => exact Advances.of_sameCalls rfl rfl
  | cons step rest ih => exact (service.advances_step source step).trans (ih _)

/--
In every run the numbers that savers are called with increase strictly, so that none of them comes
twice. A further refresh calls the saver with numbers above the watermark only, and with no two
versions of one episode.
-/
theorem run_calls_increasing (source : Source World) (processor : Processor)
    (saver : Saver World) (world : World) (steps : List (Step World)) :
    let reached := (start processor saver world).run source steps
    (∃ numbers : List Int, reached.scene.calls.map (·.entry.id) = numbers.map some ∧
      numbers.Pairwise (· < ·)) ∧
    (reached.scene.calls.map (·.entry.id)).Nodup ∧
    ∀ url, ∃ calls,
      (reached.step source (.refresh url)).scene.calls = reached.scene.calls ++ calls ∧
      (∀ call ∈ calls, ∃ number, call.entry.id = some number ∧
        reached.watermark < number) ∧
      (calls.map (·.entry)).Pairwise fun left right => ¬left.SameEpisode right := by
  intro reached
  rcases (advances_run source (start processor saver world) steps).calls with
    ⟨calls, calls_eq, ascending⟩
  -- a service starts without calls, so those made since are all
  have reached_calls : reached.scene.calls = calls := calls_eq
  rw [reached_calls]
  refine ⟨?_, ascending.ids_nodup, ?_⟩
  · have numbered : ∀ entry ∈ calls.map (·.entry), ∃ number, entry.id = some number := by
      intro entry entry_mem
      rcases List.mem_map.mp entry_mem with ⟨call, call_mem, rfl⟩
      rcases ascending.bounded call call_mem with ⟨number, call_id, _⟩
      exact ⟨number, call_id⟩
    have increasing := Entry.exists_increasing_numbers ascending.sorted numbered
    rw [List.map_map] at increasing
    exact increasing
  · intro url
    have ascends := reached.processor.observe_ascends source reached.saver url reached.scene
    rcases ascends with ⟨_, handed, handed_eq, handedAscending, disjoint⟩
    refine ⟨handed, by rw [← reached_calls]; exact handed_eq, ?_, disjoint⟩
    intro call call_mem
    rcases handedAscending.bounded call call_mem with ⟨number, call_id, above, _⟩
    exact ⟨number, call_id, above⟩

end Service

end ReleaseWatch
