import Mathlib
import ReleaseWatch.Proofs.Action
import ReleaseWatch.Proofs.Feed.Run
import ReleaseWatch.Proofs.Rule.Reload

/-!
# From accepted entries to the commit

Between the rules and the commit of a refresh there is only the selection of versions. It can fail
in two ways: a tie-break key that names nothing of an info, and an entry without a number.
Settings with such a key give no rule set, and entries come out of the staging with numbers, which
rules leave as they are. So a processor that got its rules from settings commits whenever its
rules could judge what was staged.
-/

namespace ReleaseWatch

theorem Info.forall₂_sameKind_map_get (left right : Info) (keys : List InfoKey) :
    List.Forall₂ InfoValue.SameKind (keys.map left.get) (keys.map right.get) := by
  rw [List.forall₂_map_left_iff, List.forall₂_map_right_iff, List.forall₂_same]
  exact fun key _ => left.get_sameKind right key

namespace Versions

variable {tieBreak : List String}

theorem exists_contest_eq_ok (labels : InfoKey.AreLabels tieBreak) (name : String)
    (best challenger : Info × Entry) :
    ∃ winner, (contest tieBreak name best challenger).outcome = .ok winner := by
  rcases Info.exists_compareBy_eq_ok labels challenger.1 best.1 with ⟨order, compared⟩
  rw [contest, compared]
  cases order with
  | lt => exact ⟨best, rfl⟩
  | eq => exact ⟨challenger, rfl⟩
  | gt => exact ⟨challenger, rfl⟩

theorem exists_addVersion_eq_ok (labels : InfoKey.AreLabels tieBreak) (name : String)
    (version : Info × Entry) (best : List (Info × Entry)) :
    ∃ result, (addVersion tieBreak name version best).outcome = .ok result := by
  induction best with
  | nil => exact ⟨[version], rfl⟩
  | cons champion rest ih =>
      rw [addVersion]
      split
      · apply Logged.exists_outcome_bind (exists_contest_eq_ok labels name champion version)
        intro winner met
        exact ⟨winner :: rest, rfl⟩
      · apply Logged.exists_outcome_bind ih
        intro others added
        exact ⟨champion :: others, rfl⟩

theorem exists_add_eq_ok (labels : InfoKey.AreLabels tieBreak) (versions : Versions)
    (entry : Entry) :
    ∃ next, (versions.add tieBreak entry).outcome = .ok next := by
  rw [add]
  cases entry.version? with
  | none => exact ⟨_, rfl⟩
  | some version =>
      apply Logged.exists_outcome_bind
        (exists_addVersion_eq_ok labels version.2 (version.1, entry) versions.best)
      intro best added
      exact ⟨{ versions with best }, rfl⟩

theorem exists_addAll_eq_ok (labels : InfoKey.AreLabels tieBreak) (versions : Versions)
    (entries : List Entry) : ∃ final, (versions.addAll tieBreak entries).outcome = .ok final := by
  induction entries generalizing versions with
  | nil => exact ⟨versions, rfl⟩
  | cons entry rest ih =>
      apply Logged.exists_outcome_bind (exists_add_eq_ok labels versions entry)
      intro next added
      exact ih next

theorem Summarizes.mem_of_mem_kept {keys : List InfoKey} {versions : Versions} {seen : List Entry}
    (summary : Summarizes keys versions seen) {entry : Entry}
    (entry_mem : entry ∈ versions.kept) :
    entry ∈ seen := by
  rcases List.mem_append.mp entry_mem with other_mem | best_mem
  · rw [summary.others_eq] at other_mem
    exact (List.mem_filter.mp other_mem).1
  · rcases List.mem_map.mp best_mem with ⟨champion, champion_mem, rfl⟩
    exact (summary.leads champion champion_mem).mem

end Versions

theorem exists_withNumbers_eq_ok {entries : List Entry}
    (numbered : ∀ entry ∈ entries, entry.id ≠ none) :
    ∃ paired, withNumbers entries = .ok paired := by
  induction entries with
  | nil => exact ⟨[], rfl⟩
  | cons entry rest ih =>
      rcases List.forall_mem_cons.mp numbered with ⟨hasNumber, others⟩
      rcases Option.ne_none_iff_exists'.mp hasNumber with ⟨number, found⟩
      rcases ih others with ⟨paired, pairedRest⟩
      have keyed : entry.orderKey = .ok number := by rw [Entry.orderKey, found]
      refine ⟨(number, entry) :: paired, ?_⟩
      rw [withNumbers, keyed, pairedRest]
      rfl

/--
Neither a comparison nor the sort fails, since what is sorted are entries that were there before.
-/
theorem exists_selectBest_eq_ok {tieBreak : List String} (labels : InfoKey.AreLabels tieBreak)
    {entries : List Entry} (numbered : ∀ entry ∈ entries, entry.id ≠ none) :
    ∃ selected, (selectBest tieBreak entries).outcome = .ok selected := by
  apply Logged.exists_outcome_bind (Versions.exists_addAll_eq_ok labels {} entries)
  intro versions added
  have summary := (Versions.Summarizes.empty (Info.tieBreakKeys tieBreak)).addAll added
  rw [List.nil_append] at summary
  have keptNumbered : ∀ entry ∈ versions.kept, entry.id ≠ none := by
    intro entry entry_mem
    exact numbered entry (summary.mem_of_mem_kept entry_mem)
  rcases exists_withNumbers_eq_ok keptNumbered with ⟨paired, pairedKept⟩
  rw [sortByNumber, pairedKept]
  exact ⟨_, rfl⟩

/-- A filter has the rules of settings, or it is new and has none. -/
def Filter.IsLoaded (filter : Filter) : Prop :=
  filter.active = {} ∨ ∃ settings, filter.active.CompiledFrom settings

namespace Filter.IsLoaded

variable {filter : Filter}

theorem areLabels (loaded : filter.IsLoaded) : InfoKey.AreLabels filter.active.tieBreak := by
  rcases loaded with new | ⟨settings, compiled⟩
  · simp [InfoKey.AreLabels, new]
  · rw [compiled.tieBreak_eq]
    exact compiled.known

theorem load (loaded : filter.IsLoaded) (settings : FilterSettings) :
    (filter.load settings).1.IsLoaded := by
  rcases filter.load_cases settings with ⟨rules, compiled, replaced⟩ | ⟨_, _, kept⟩
  · rw [replaced]
    exact Or.inr ⟨settings, RuleSet.ofSettings_eq_ok_iff.mp compiled⟩
  · rw [kept]
    exact loaded

end Filter.IsLoaded

namespace Processor

/-- No surroundings can change the rules of a refresh. -/
theorem filter_refresh {World : Type} (processor : Processor)
    (surroundings : Surroundings (StateM World)) (url : String) (world : World) :
    ((processor.refresh surroundings url).run world).1.processor.filter = processor.filter := by
  rw [refresh, run_bind_eq]
  cases ((surroundings.fetch url).run world).1 with
  | error failure => rfl
  | ok items =>
      dsimp only
      rw [run_bind_eq]
      cases (processor.select items).outcome with
      | error failure => rfl
      | ok selection => rfl

/-- Entries that were staged have numbers, and so have those of them that the rules accept. -/
theorem id_ne_none_of_accepted {processor : Processor} {staged : List NumberedEntry}
    {accepted : List Entry}
    (filtering : (processor.filter.accept (staged.map (·.entry))).outcome = .ok accepted) :
    ∀ entry ∈ accepted, entry.id ≠ none := by
  intro entry entry_mem
  rcases (RuleSet.mem_accepted_iff filtering entry).mp entry_mem with
    ⟨source, source_mem, admitted⟩
  rcases List.mem_map.mp source_mem with ⟨found, _, rfl⟩
  rw [RuleSet.id_eq_of_admits admitted, found.id_eq]
  exact Option.some_ne_none found.number

theorem select_of_stages {processor : Processor} {items : List Item} {staged : List NumberedEntry}
    {accepted selected : List Entry} (staging : (processor.state.stage items).outcome = .ok staged)
    (filtering : (processor.filter.accept (staged.map (·.entry))).outcome = .ok accepted)
    (selecting : (selectBest processor.filter.active.tieBreak accepted).outcome = .ok selected) :
    (processor.select items).outcome = .ok { staged, selected } := by
  refine Logged.outcome_bind_eq_ok_iff.mpr ⟨staged, staging, ?_⟩
  refine Logged.outcome_bind_eq_ok_iff.mpr ⟨(), rfl, ?_⟩
  cases staged with
  | nil =>
      -- nothing new is not filtered, and would have been accepted and selected to nothing
      cases filtering
      rw [selectBest_nil] at selecting
      cases selecting
      rfl
  | cons first rest =>
      refine Logged.outcome_bind_eq_ok_iff.mpr ⟨accepted, filtering, ?_⟩
      exact Logged.outcome_bind_eq_ok_iff.mpr ⟨selected, selecting, rfl⟩

end Processor

namespace Service

variable {World : Type}

theorem isLoaded_step {service : Service World} (loaded : service.processor.filter.IsLoaded)
    (source : Source World) (step : Step World) :
    (service.step source step).processor.filter.IsLoaded := by
  cases step with
  | reload settings => exact loaded.load settings
  | refresh url =>
      have kept :=
        service.processor.filter_refresh (Scene.surroundings source service.saver) url service.scene
      rw [← kept] at loaded
      exact loaded
  | setSaver saver => exact loaded

theorem isLoaded_run {service : Service World} (loaded : service.processor.filter.IsLoaded)
    (source : Source World) (steps : List (Step World)) :
    (service.run source steps).processor.filter.IsLoaded := by
  induction steps generalizing service with
  | nil => exact loaded
  | cons step rest ih => exact ih (isLoaded_step loaded source step)

end Service

/--
Under the tie-break keys of a rule set that was compiled, any two infos have sort keys whose
parts can be compared, and the best versions can be selected of any entries with numbers.
Hence, however a processor without rules was used before, a refresh whose rules can judge what
was staged commits it.
-/
theorem compiled_rules_commit :
    (∀ settings rules, RuleSet.ofSettings settings = .ok rules →
      (∀ left right : Info, ∃ leftKey rightKey, left.sortKey rules.tieBreak = .ok leftKey ∧
        right.sortKey rules.tieBreak = .ok rightKey ∧
        List.Forall₂ InfoValue.SameKind leftKey rightKey) ∧
      ∀ entries : List Entry, (∀ entry ∈ entries, entry.id ≠ none) →
        ∃ selected, (selectBest rules.tieBreak entries).outcome = .ok selected) ∧
    ∀ (World : Type) (source : Source World) (saver : Saver World) (world : World)
      (state : FeedState)
      (steps : List (Step World)) (url : String) (items : List Item) (staged : List NumberedEntry)
      (accepted : List Entry),
      let service := (Service.start { state } saver world).run source steps
      let processor := service.processor
      (source url service.scene.world).1 = .ok items →
      (processor.state.stage items).outcome = .ok staged →
      (processor.filter.accept (staged.map (·.entry))).outcome = .ok accepted →
      ∃ selected, (selectBest processor.filter.active.tieBreak accepted).outcome =
        .ok selected ∧
        (processor.select items).outcome = .ok { staged, selected } ∧
        (service.step source (.refresh url)).processor =
          { processor with state := processor.state.commit staged } := by
  constructor
  · intro settings rules compiled
    have labels : InfoKey.AreLabels rules.tieBreak := by
      have compiledFrom := RuleSet.ofSettings_eq_ok_iff.mp compiled
      rw [compiledFrom.tieBreak_eq]
      exact compiledFrom.known
    refine ⟨?_, fun entries numbered => exists_selectBest_eq_ok labels numbered⟩
    intro left right
    exact ⟨_, _, Info.sortKey_of_areLabels labels left, Info.sortKey_of_areLabels labels right,
      left.forall₂_sameKind_map_get right _⟩
  · intro World source saver world state steps url items staged accepted service processor
      fetched staging filtering
    have loaded : processor.filter.IsLoaded := Service.isLoaded_run (Or.inl rfl) source steps
    rcases exists_selectBest_eq_ok loaded.areLabels
      (Processor.id_ne_none_of_accepted filtering) with
      ⟨selected, selecting⟩
    have decided := Processor.select_of_stages staging filtering selecting
    refine ⟨selected, selecting, decided, ?_⟩
    rw [Service.step, Processor.observe_of_decided fetched decided]

namespace TwoVersions

/-- Settings that accept a category, and prefer great versions. -/
def settings : FilterSettings where
  accept := [.mapping [(.text "category", .text "tv")]]
  tieBreak := ["ver", "eps", "crc"]

/-- Settings that give no rules. -/
def misspelt : FilterSettings where
  tieBreak := ["version"]

def rules : RuleSet where
  accept := [{
    name := "accept[0]"
    matchers := [.equal "category" .category (.text "tv")]
    gates := []
    infoChecks := []
    source := [(.text "category", .text "tv")] }]
  tieBreak := ["ver", "eps", "crc"]

/-- A release of the first episode of a series. -/
def version (number ver : Int) : Entry where
  id := some number
  info := some { name := some "B", ep := 1, endep := 1, ver }

def item : Item where
  title := some "B"
  guid := some "id=7"
  category := some "tv"

def found : NumberedEntry where
  entry := { id := some 7, title := some "B", guid := "id=7", category := "tv" }
  number := 7
  id_eq := rfl

theorem expandRule_fragment :
    expandRule [] (.mapping [(.text "category", .text "tv")]) =
      .ok [(.text "category", .text "tv")] := by cbv

theorem compiledFrom_settings : rules.CompiledFrom settings where
  known := RuleSet.unknownKeys_eq_nil_iff.mp (by decide)
  deny := .nil
  accept := by
    refine .cons ⟨rfl, ?_⟩ .nil
    rw [Rule.ofFragment, settings, expandRule_fragment]
    rfl
  tieBreak_eq := rfl

theorem ofSettings_misspelt :
    RuleSet.ofSettings misspelt = .error (.configuration (.unknownTieBreak ["version"])) := by rfl

/--
The rules stay in force when misspelt ones are refused,
and behind that a refresh commits what it found.
-/
theorem compiled_rules_commit_of_twoVersions :
    let saver : Saver Unit := fun _ world => (.ok (), world)
    let service :=
      (Service.start {} saver ()).run (.answering [item]) [.reload settings, .reload misspelt]
    RuleSet.ofSettings settings = .ok rules ∧
    (∃ selected, (selectBest rules.tieBreak [version 7 2, version 5 1]).outcome =
      .ok selected) ∧
    (service.step (.answering [item]) (.refresh "")).processor.state.watermark = 7 := by
  intro saver service
  have ofSettings_settings := RuleSet.ofSettings_eq_ok_iff.mpr compiledFrom_settings
  have filter_eq : service.processor.filter = { active := rules } := by
    simp [service, Service.run, Service.step, Service.start, Processor.reload, Filter.load,
      Filter.read_outcome, ofSettings_settings, ofSettings_misspelt]
  have state_eq : service.processor.state = {} := by
    simp [service, Service.run, Service.step, Service.start, Processor.reload]
  have staging : (service.processor.state.stage [item]).outcome = .ok [found] := by
    rw [state_eq]
    cbv
  have filtering : (service.processor.filter.accept [found.entry]).outcome = .ok [found.entry] := by
    rw [filter_eq]
    cbv
  have committed := compiled_rules_commit.2 Unit (.answering [item]) saver () {}
    [.reload settings, .reload misspelt] "" [item] [found] [found.entry] rfl staging filtering
  rcases committed with ⟨_, _, _, reached⟩
  have selectable := (compiled_rules_commit.1 settings rules ofSettings_settings).2
    [version 7 2, version 5 1] (by simp [version])
  refine ⟨ofSettings_settings, selectable, ?_⟩
  rw [reached, state_eq]
  rfl

end TwoVersions

end ReleaseWatch
