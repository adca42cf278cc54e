import ReleaseWatch.Feed.Processor
import ReleaseWatch.Proofs.Outcome

/-!
# Processing in view

A processor acts on its surroundings only through a source and a saver. Here both are arbitrary
functions of a world that they may change as they like, so that a source can answer and a saver
can fail in any way, by whatever it has seen before. The scene around a processor is that world
together with what an onlooker sees: the calls of the saver, each with its answer, and the log.

`Processor.observe_eq` says what one refresh comes to in such a scene. All that is proved of
refreshes and of their runs goes back to this equation.
-/

namespace ReleaseWatch

/-- A source of items, which may change its world at every request. -/
abbrev Source (World : Type) : Type :=
  String → World → Except Failure (List Item) × World

/-- A saver of entries, which may change its world and fail at every call. -/
abbrev Saver (World : Type) : Type :=
  Entry → World → Except Failure Unit × World

/-- A source that answers every request with the same items. -/
def Source.answering {World : Type} (items : List Item) : Source World :=
  fun _ world => (.ok items, world)

/-- A call of a saver, and its answer. -/
structure SaverCall where
  entry : Entry
  answer : Except Failure Unit

/-- The world around a processor, and what was seen of it. -/
structure Scene (World : Type) where
  world : World
  calls : List SaverCall := []
  lines : List LogLine := []

namespace Scene

variable {World : Type}

/-- The surroundings that a source and a saver make, in full view. -/
def surroundings (source : Source World) (saver : Saver World) :
    Surroundings (StateM (Scene World)) where
  fetch url scene :=
    let (answer, world) := source url scene.world
    (answer, { scene with world })
  log line scene := ((), { scene with lines := scene.lines ++ [line] })
  save entry scene :=
    let (answer, world) := saver entry scene.world
    (answer, { scene with world, calls := scene.calls ++ [{ entry, answer }] })

theorem run_bind_of_run {α β : Type} {action : StateM (Scene World) α}
    {next : α → StateM (Scene World) β} {scene reached : Scene World} {value : α}
    (ran : action.run scene = (value, reached)) :
    (action >>= next).run scene = (next value).run reached := by
  rw [StateT.run_bind, ran]
  rfl

variable (source : Source World) (saver : Saver World) (scene : Scene World)

theorem fetch_run (url : String) :
    ((surroundings source saver).fetch url).run scene =
      ((source url scene.world).1, { scene with world := (source url scene.world).2 }) := rfl

theorem log_run (line : LogLine) :
    ((surroundings source saver).log line).run scene =
      ((), { scene with lines := scene.lines ++ [line] }) := rfl

theorem save_run (entry : Entry) :
    ((surroundings source saver).save entry).run scene =
      ((saver entry scene.world).1,
        { scene with
          world := (saver entry scene.world).2
          calls := scene.calls ++ [{ entry, answer := (saver entry scene.world).1 }] }) := rfl

end Scene

/-- What came of handing entries to a saver. -/
structure Delivery (World : Type) where
  calls : List SaverCall
  outcome : Except Failure Unit
  world : World

/-- Hands entries to a saver one after the other, up to the first one that it fails on. -/
def Saver.deliver {World : Type} (saver : Saver World) : List Entry → World → Delivery World
  | [], world => { calls := [], outcome := .ok (), world }
  | entry :: rest, world =>
      match saver entry world with
      | (.error failure, world) =>
          { calls := [{ entry, answer := .error failure }], outcome := .error failure, world }
      | (.ok (), world) =>
          let others := saver.deliver rest world
          { others with calls := { entry, answer := .ok () } :: others.calls }

namespace Delivery

variable {World : Type}

/--
What the calls of a delivery were: all entries, each with success, or some of them with success
and then one that the saver failed on.
-/
def Covers (entries : List Entry) (calls : List SaverCall) : Except Failure Unit → Prop
  | .ok () => calls = entries.map fun entry => { entry, answer := .ok () }
  | .error failure =>
      ∃ before last after, entries = before ++ last :: after ∧
        calls = (before.map fun entry => { entry, answer := .ok () }) ++
          [{ entry := last, answer := .error failure }]

theorem covers (saver : Saver World) (entries : List Entry) (world : World) :
    Covers entries (saver.deliver entries world).calls (saver.deliver entries world).outcome := by
  induction entries generalizing world with
  | nil => rfl
  | cons entry rest ih =>
      rw [Saver.deliver]
      split
      · rename_i failure reached answered
        exact ⟨[], entry, rest, rfl, rfl⟩
      · rename_i reached answered
        have others := ih reached
        cases ended : (saver.deliver rest reached).outcome with
        | ok done =>
            simp only [ended, Covers] at others
            simp [Covers, others]
        | error failure =>
            simp only [ended, Covers] at others
            rcases others with ⟨before, last, after, rfl, calls_eq⟩
            simp only [Covers]
            exact ⟨entry :: before, last, after, rfl, by simp [calls_eq]⟩

/-- The saver is called with the entries in their order, and with all of them unless it fails. -/
theorem prefix_of_covers {entries : List Entry} {calls : List SaverCall}
    {outcome : Except Failure Unit} (covered : Covers entries calls outcome) :
    calls.map (·.entry) <+: entries := by
  cases outcome with
  | ok done =>
      cases covered
      simp [Function.comp_def]
  | error failure =>
      rcases covered with ⟨before, last, after, rfl, rfl⟩
      exact ⟨after, by simp [Function.comp_def]⟩

end Delivery

namespace Processor

variable {World : Type}

/-- A refresh in a scene. -/
def observe (processor : Processor) (source : Source World) (saver : Saver World) (url : String)
    (scene : Scene World) : Refreshed × Scene World :=
  (processor.refresh (Scene.surroundings source saver) url).run scene

theorem handOver_run (source : Source World) (saver : Saver World) (entries : List Entry)
    (scene : Scene World) :
    (handOver (Scene.surroundings source saver).save entries).run scene =
      let delivery := saver.deliver entries scene.world
      ({ handed := delivery.calls.map (·.entry), outcome := delivery.outcome },
        { scene with world := delivery.world, calls := scene.calls ++ delivery.calls }) := by
  induction entries generalizing scene with
  | nil =>
      simp only [handOver, Saver.deliver, StateT.run_pure, List.map_nil, List.append_nil]
      rfl
  | cons entry rest ih =>
      rw [handOver, Scene.run_bind_of_run (Scene.save_run source saver scene entry), Saver.deliver]
      rcases answered : saver entry scene.world with ⟨answer, reached⟩
      cases answer with
      | error failure => rfl
      | ok done =>
          rw [Scene.run_bind_of_run (ih _)]
          simp only [StateT.run_pure, List.map_cons, List.append_assoc, List.cons_append,
            List.nil_append]
          rfl

theorem forM_log_run (source : Source World) (saver : Saver World) (lines : List LogLine)
    (scene : Scene World) :
    (lines.forM (Scene.surroundings source saver).log).run scene =
      ((), { scene with lines := scene.lines ++ lines }) := by
  induction lines generalizing scene with
  | nil =>
      simp only [List.append_nil]
      rfl
  | cons line rest ih =>
      rw [List.forM, Scene.run_bind_of_run (Scene.log_run source saver scene line), ih]
      simp

/--
One refresh in a scene. Nothing but the world and the log changes before the decision; then the
staged entries are committed, and the selected ones delivered.
-/
theorem observe_eq (processor : Processor) (source : Source World) (saver : Saver World)
    (url : String) (scene : Scene World) :
    processor.observe source saver url scene =
      match source url scene.world with
      | (.error failure, world) =>
          ({ processor, handed := [], outcome := .error failure }, { scene with world })
      | (.ok items, world) =>
          let decided := processor.select items
          match decided.outcome with
          | .error failure =>
              ({ processor, handed := [], outcome := .error failure },
                { scene with world, lines := scene.lines ++ decided.log })
          | .ok selection =>
              let delivery := saver.deliver selection.selected world
              ({ processor := { processor with state := processor.state.commit selection.staged }
                 handed := delivery.calls.map (·.entry)
                 outcome := delivery.outcome.map fun _ => selection.selected },
                { world := delivery.world
                  calls := scene.calls ++ delivery.calls
                  lines := scene.lines ++ decided.log }) := by
  rw [observe, refresh, Scene.run_bind_of_run (Scene.fetch_run source saver scene url)]
  rcases answered : source url scene.world with ⟨answer, reached⟩
  cases answer with
  | error failure => rfl
  | ok items =>
      simp only
      rw [Scene.run_bind_of_run (forM_log_run source saver _ _)]
      cases decided : (processor.select items).outcome with
      | error failure => rfl
      | ok selection =>
          simp only [complete]
          rw [Scene.run_bind_of_run (handOver_run source saver _ _)]
          rfl

section Cases

variable {processor : Processor} {source : Source World} {saver : Saver World} {url : String}
  {scene : Scene World} {items : List Item} {failure : Failure} {selection : Selection}

theorem observe_of_unfetched (unfetched : (source url scene.world).1 = .error failure) :
    processor.observe source saver url scene =
      ({ processor, handed := [], outcome := .error failure },
        { scene with world := (source url scene.world).2 }) := by
  rw [observe_eq]
  rcases answered : source url scene.world with ⟨answer, reached⟩
  simp only [answered] at unfetched
  rw [unfetched]

theorem observe_of_undecided (fetched : (source url scene.world).1 = .ok items)
    (undecided : (processor.select items).outcome = .error failure) :
    processor.observe source saver url scene =
      ({ processor, handed := [], outcome := .error failure },
        { scene with
          world := (source url scene.world).2
          lines := scene.lines ++ (processor.select items).log }) := by
  rw [observe_eq]
  rcases answered : source url scene.world with ⟨answer, reached⟩
  simp only [answered] at fetched
  rw [fetched]
  simp only [undecided]

/-- A refresh that comes to a decision commits the staged entries and delivers the selected ones. -/
theorem observe_of_decided (fetched : (source url scene.world).1 = .ok items)
    (decided : (processor.select items).outcome = .ok selection) :
    processor.observe source saver url scene =
      let delivery := saver.deliver selection.selected (source url scene.world).2
      ({ processor := { processor with state := processor.state.commit selection.staged }
         handed := delivery.calls.map (·.entry)
         outcome := delivery.outcome.map fun _ => selection.selected },
        { world := delivery.world
          calls := scene.calls ++ delivery.calls
          lines := scene.lines ++ (processor.select items).log }) := by
  rw [observe_eq]
  rcases answered : source url scene.world with ⟨answer, reached⟩
  simp only [answered] at fetched
  rw [fetched]
  simp only [decided]

end Cases

end Processor

end ReleaseWatch
