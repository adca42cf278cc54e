import Mathlib
import ReleaseWatch.Proofs.Feed.Decision

/-!
# The result of a refresh

A refresh that succeeds returns what it handed over. Which entries these are can be said of the
items without following the refresh: of the new entries that the rules admit, every one that is no
version of an episode, and the best version of each episode, in the order of their numbers.
-/

namespace ReleaseWatch

namespace Processor

variable {World : Type}

/--
The entries that a refresh returns were all handed to the saver, in the order of their numbers.
They are the candidates that are no versions, and the best version of each episode among the
candidates; every episode that occurs has one.
-/
theorem observe_returns_best {processor : Processor} {source : Source World} {saver : Saver World}
    {url : String} {scene : Scene World} {items : List Item} {selected : List Entry}
    (fetched : (source url scene.world).1 = .ok items)
    (succeeded : (processor.observe source saver url scene).1.outcome = .ok selected) :
    (processor.observe source saver url scene).1.handed = selected ∧
    (processor.observe source saver url scene).2.calls =
      scene.calls ++ selected.map (fun entry => { entry, answer := .ok () }) ∧
    selected.Pairwise Entry.Precedes ∧
    (∀ entry, entry ∈ selected ↔
      processor.IsCandidate items entry ∧
        ((∀ info, entry.info = some info → info.name = none) ∨
          Entry.IsBest (Info.tieBreakKeys processor.filter.active.tieBreak)
            (processor.IsCandidate items) entry)) ∧
    ∀ entry info, processor.IsCandidate items entry → entry.IsVersion info →
      ∃! best, best ∈ selected ∧ best.SameEpisode entry := by
  cases decided : (processor.select items).outcome with
  | error failure =>
      rw [observe_of_undecided fetched decided] at succeeded
      cases succeeded
  | ok selection =>
      rw [observe_of_decided fetched decided] at succeeded ⊢
      have decides := decides_of_select decided
      have delivered := Delivery.covers saver selection.selected (source url scene.world).2
      rcases Outcome.map_eq_ok_iff.mp succeeded with ⟨done, ended, same⟩
      subst same
      rw [ended] at delivered
      have calls_eq : (saver.deliver selection.selected (source url scene.world).2).calls =
          selection.selected.map (fun entry => { entry, answer := .ok () }) := delivered
      refine ⟨?_, ?_, decides.selected_sorted, ?_, ?_⟩
      · simp [calls_eq, Function.comp_def]
      · simp only [calls_eq]
      · intro entry
        rw [decides.mem_selected_iff, Entry.version?_eq_none_iff_name]
      · intro entry info candidate version
        exact decides.existsUnique_selected candidate version

end Processor

namespace Letters

/-- A pattern for releases whose titles are a letter, the digit of an episode, and a version. -/
def pattern : TitlePattern where
  text := "(?P<name>.)(?P<ep>[0-9])v(?P<ver>[0-9])"
  pattern := {
    root := .ofSequence [
      .group 1 (.one {} .any),
      .group 2 (.one {} (.items false [.range 0x30 0x39])),
      .one {} (.code false 0x76),
      .group 3 (.one {} (.items false [.range 0x30 0x39]))]
    groups := 3
    names := [("name", 1), ("ep", 2), ("ver", 3)] }

/-- A rule of one matcher. -/
def matcherRule (name : String) (matcher : Matcher) : Rule :=
  { name, matchers := [matcher], gates := [], infoChecks := [], source := [] }

/-- A processor that knows the numbers up to 1, denies old releases, and prefers great versions. -/
def processor : Processor where
  filter := { active := {
    deny := [matcherRule "deny[0]" (.equal "category" .category (.text "old"))]
    accept := [
      matcherRule "accept[0]" (.titlePattern pattern),
      matcherRule "accept[1]" (.equal "category" .category (.text "film"))]
    tieBreak := ["ver"] } }
  state := { watermark := 1 }

/-- Five releases of one episode, the greatest version denied and the next one known, and a film. -/
def releases : List Item := [
  { title := some "B1v2", guid := some "id=5" },
  { title := some "B1v2", guid := some "id=3" },
  { title := some "B1v1", guid := some "id=7" },
  { title := some "Film", guid := some "id=4", category := some "film" },
  { title := some "B1v9", guid := some "id=6", category := some "old" },
  { title := some "B1v8", guid := some "id=1" }]

/-- The film, and the later one of the two releases that tie. -/
def selection : List Entry := [
  { id := some 4, title := some "Film", guid := "id=4", category := "film" },
  { id := some 5, title := some "B1v2", guid := "id=5",
    info :=
      some { name := some "B", ep := 1, endep := 1, ver := 2, captured := ["name", "ep", "ver"] } }]

/-- Among the letters the last one of the greatest version is the best. -/
theorem observe_returns_best_of_letters :
    let saver : Saver Unit := fun _ world => (.ok (), world)
    let (refreshed, reached) :=
      processor.observe (.answering releases) saver "" { world := () }
    refreshed.outcome = .ok selection ∧
    reached.calls = selection.map (fun entry => { entry, answer := .ok () }) ∧
    ∀ entry, entry ∈ selection ↔
      processor.IsCandidate releases entry ∧
        ((∀ info, entry.info = some info → info.name = none) ∨
          Entry.IsBest [.ver] (processor.IsCandidate releases) entry) := by
  intro saver
  have succeeded : (processor.observe (.answering releases) saver ""
      { world := () }).1.outcome = .ok selection := by cbv
  have fetched : ((Source.answering releases : Source Unit) "" ()).1 = .ok releases := rfl
  have returned := Processor.observe_returns_best fetched succeeded
  rcases returned with ⟨_, calls_eq, _, selected_iff, _⟩
  exact ⟨succeeded, calls_eq, selected_iff⟩

end Letters

end ReleaseWatch
