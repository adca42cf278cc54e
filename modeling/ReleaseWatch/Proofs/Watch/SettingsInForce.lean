import ReleaseWatch.Proofs.Action
import ReleaseWatch.Proofs.Feed.Commitment
import ReleaseWatch.Watch.Run

/-!
# The settings in force

A session took its settings, its rules and its saver from the settings document, one after the
other, and a reload can fail between the first two. Nevertheless all of them come from one
document at every refresh: the latest one that was found in full order. A reload that finds
anything else leaves the session as it was.
-/

namespace ReleaseWatch

/-- A document states settings, and they give rules. -/
def Value.States (document : Value) (settings : Settings) (rules : RuleSet) : Prop :=
  Settings.ofDocument document = .ok settings ∧ RuleSet.ofSettings settings.filters = .ok rules

/-- What was found in the place of the settings is a document that can be put in force. -/
def IsUsable (found : Except Failure Value) (document : Value) : Prop :=
  found = .ok document ∧ ∃ settings rules, document.States settings rules

theorem Processor.outcome_reload (processor : Processor) (settings : FilterSettings) :
    (processor.reload settings).2.outcome = RuleSet.ofSettings settings := by
  rw [reload, Filter.load_snd, Filter.read_outcome]

namespace Host

variable {World : Type}

theorem exists_perform_log (host : Host (StateM World)) (lines : List LogLine) (world : World) :
    ∃ reached, perform (lines.forM fun line => liftM (host.log line)) world =
      (.ok (), reached) := by
  induction lines generalizing world with
  | nil => exact ⟨world, rfl⟩
  | cons line rest ih =>
      rw [List.forM, perform_bind, perform_liftM]
      exact ih _

theorem exists_perform_replay {α : Type} (host : Host (StateM World)) (computation : Logged α)
    (world : World) :
    ∃ reached, perform (host.replay computation) world = (computation.outcome, reached) := by
  rcases exists_perform_log host computation.log world with ⟨reached, logged⟩
  rw [Host.replay, perform_bind_of_ok logged]
  exact ⟨reached, rfl⟩

/-- The world behind the announcement of a reload. -/
def announceReload (host : Host (StateM World)) (world : World) : World :=
  ((host.note .info "Reloading settings...").run world).2

end Host

theorem Settings.perform_load {World : Type} (host : Host (StateM World)) (path : String)
    (world : World) :
    (perform (load host path) world).1 =
      (perform (readDocument host path) world).1.bind ofDocument := by
  rw [load, perform_bind]
  rcases perform (readDocument host path) world with ⟨outcome, reached⟩
  cases outcome <;> rfl

namespace Session

/-- The settings, the rules and the saver of a session come from one and the same document. -/
structure Follows (session : Session) (document : Value) : Prop where
  settings : Settings.ofDocument document = .ok session.settings
  rules : RuleSet.ofSettings session.settings.filters = .ok session.processor.filter.active
  saving : session.saving = session.settings.save

variable {World : Type} {host : Host (StateM World)} {path : String} {session refreshed : Session}
  {world reached : World} {document : Value}

theorem refresh_keeps
    (refreshes : perform (session.refresh host) world = (.ok refreshed, reached)) :
    refreshed.settings = session.settings ∧
    refreshed.processor.filter = session.processor.filter ∧
      refreshed.saving = session.saving := by
  have kept :=
    session.processor.filter_refresh (session.surroundings host) session.settings.url world
  rw [refresh, perform_bind, perform_lift] at refreshes
  generalize (session.processor.refresh (session.surroundings host) session.settings.url).run
    world = ran at kept refreshes
  rcases ran with ⟨result, between⟩
  dsimp only at kept refreshes
  cases outcome : result.outcome with
  | ok selected =>
      rw [outcome] at refreshes
      cases refreshes
      exact ⟨rfl, kept, rfl⟩
  | error failure =>
      rw [outcome] at refreshes
      rcases perform_bind_eq_ok_iff.mp refreshes with ⟨_, _, _, done⟩
      cases done
      exact ⟨rfl, kept, rfl⟩

theorem loadRules_run (session : Session) (host : Host (StateM World)) (path : String)
    (world : World) :
    (session.loadRules host path).run world =
      match perform (Settings.load host path) world with
      | (.error failure, reached) => ((session, .error failure), reached)
      | (.ok settings, reached) =>
          let (processor, rules) := session.processor.reload settings.filters
          let (outcome, reached) := perform (host.replay rules) reached
          (({ session with processor }, outcome.map fun _ => settings), reached) := by
  rw [loadRules, run_bind_eq, perform]
  generalize (Settings.load host path).run.run world = ran
  rcases ran with ⟨outcome, reached⟩
  cases outcome with
  | error failure => rfl
  | ok settings => rfl

/-- The session with a document put in force, but for its saver. -/
def withRules (session : Session) (rules : RuleSet) : Session :=
  { session with processor := { session.processor with filter := { active := rules } } }

theorem loadRules_of_error {failure : Failure}
    (failed : perform (Settings.load host path) world = (.error failure, reached)) :
    ((session.loadRules host path).run world).1 = (session, .error failure) := by
  rw [loadRules_run, failed]

theorem loadRules_of_ok {settings : Settings}
    (loaded : perform (Settings.load host path) world = (.ok settings, reached)) :
    ((session.loadRules host path).run world).1 =
      ({ session with
          processor := { session.processor with
            filter := (session.processor.filter.load settings.filters).1 } },
        (RuleSet.ofSettings settings.filters).map fun _ => settings) := by
  rcases host.exists_perform_replay (session.processor.reload settings.filters).2 reached with
    ⟨left, replayed⟩
  simp only [loadRules_run, loaded, replayed]
  rw [Processor.outcome_reload]
  rfl

/-- New rules are put in force only if the settings that they belong to are given as well. -/
theorem loadRules_cases (session : Session) (host : Host (StateM World)) (path : String)
    (world : World) :
    (∃ document settings rules, (perform (Settings.readDocument host path) world).1 =
      .ok document ∧
      document.States settings rules ∧
      ((session.loadRules host path).run world).1 = (session.withRules rules, .ok settings)) ∨
    (∀ document, ¬IsUsable (perform (Settings.readDocument host path) world).1 document) ∧
      ∃ failure, ((session.loadRules host path).run world).1 = (session, .error failure) := by
  have load_eq := Settings.perform_load host path world
  rcases loaded : perform (Settings.load host path) world with ⟨outcome, reached⟩
  rw [loaded] at load_eq
  cases outcome with
  | error failure =>
      right
      refine ⟨?_, failure, loadRules_of_error loaded⟩
      rintro document ⟨found_eq, settings, rules, stated, _⟩
      rw [found_eq, Outcome.bind_ok, stated] at load_eq
      cases load_eq
  | ok settings =>
      rcases Outcome.bind_eq_ok_iff.mp load_eq.symm with ⟨document, found_eq, stated⟩
      rw [loadRules_of_ok loaded]
      rcases session.processor.filter.load_cases settings.filters with
        ⟨rules, compiled, replaced⟩ | ⟨failure, refused, kept⟩
      · left
        refine ⟨document, settings, rules, found_eq, ⟨stated, compiled⟩, ?_⟩
        rw [replaced, compiled]
        rfl
      · right
        refine ⟨?_, failure, ?_⟩
        · rintro other ⟨other_eq, otherSettings, rules, otherStated, compiled⟩
          cases found_eq.symm.trans other_eq
          cases stated.symm.trans otherStated
          rw [refused] at compiled
          cases compiled
        · rw [kept, refused]
          rfl

/-- What a reload finds in the place of the settings. -/
def found (host : Host (StateM World)) (path : String) (world : World) : Except Failure Value :=
  (perform (Settings.readDocument host path) (host.announceReload world)).1

theorem perform_reload (session : Session) (host : Host (StateM World)) (path : String)
    (world : World) :
    ∃ left, perform (session.reload host path) world =
      (match ((session.loadRules host path).run (host.announceReload world)).1 with
        | (session, .ok settings) => .ok { session with settings }
        | (session, .error failure) =>
            if isSurvivable failure then .ok session else .error failure, left) := by
  rw [reload, perform_bind, perform_liftM]
  dsimp only
  rw [← Host.announceReload, perform_bind, perform_lift]
  dsimp only
  generalize (session.loadRules host path).run (host.announceReload world) = ran
  rcases ran with ⟨⟨loaded, outcome⟩, reached⟩
  cases outcome with
  | ok settings => exact ⟨reached, rfl⟩
  | error failure =>
      dsimp only
      cases isSurvivable failure with
      | true => exact ⟨_, rfl⟩
      | false => exact ⟨reached, rfl⟩

/--
A reload that finds a document in full order puts its settings and its rules in force. With
anything else it leaves the session as it is, unless it ends it.
-/
theorem reload_cases (session : Session) (host : Host (StateM World)) (path : String)
    (world : World) :
    (∃ document settings rules left, found host path world = .ok document ∧
      document.States settings rules ∧
      perform (session.reload host path) world =
        (.ok { session.withRules rules with settings }, left)) ∨
    (∀ document, ¬IsUsable (found host path world) document) ∧
      ∃ failure left, perform (session.reload host path) world =
        (if isSurvivable failure then .ok session else .error failure, left) := by
  rcases session.perform_reload host path world with ⟨left, reloads⟩
  rcases session.loadRules_cases host path (host.announceReload world) with
    ⟨document, settings, rules, found_eq, states, loaded⟩ | ⟨unusable, failure, loaded⟩
  · rw [loaded] at reloads
    exact Or.inl ⟨document, settings, rules, left, found_eq, states, reloads⟩
  · rw [loaded] at reloads
    exact Or.inr ⟨unusable, failure, left, reloads⟩

theorem Follows.of_refresh (follows : session.Follows document)
    (refreshes : perform (session.refresh host) world = (.ok refreshed, reached)) :
    refreshed.Follows document := by
  rcases refresh_keeps refreshes with ⟨sameSettings, sameFilter, sameSaving⟩
  constructor
  · rw [sameSettings]
    exact follows.settings
  · rw [sameSettings, sameFilter]
    exact follows.rules
  · rw [sameSaving, sameSettings]
    exact follows.saving

theorem Follows.renewSaver_eq (follows : session.Follows document) :
    session.renewSaver = session := by
  rw [renewSaver, ← follows.saving]

/--
Behind a reload and a new saver, a session follows what was found, or what it followed before.
-/
theorem Follows.of_reload {reloaded : Session} (follows : session.Follows document)
    (reloads : perform (session.reload host path) world = (.ok reloaded, reached)) :
    (∃ latest, IsUsable (found host path world) latest ∧ reloaded.renewSaver.Follows latest) ∨
      (∀ latest, ¬IsUsable (found host path world) latest) ∧
        reloaded.renewSaver = session := by
  rcases session.reload_cases host path world with
    ⟨latest, settings, rules, left, found_eq, states, reloads'⟩ | ⟨unusable, failure,
      left, reloads'⟩
  · rw [reloads] at reloads'
    cases reloads'
    exact Or.inl ⟨latest, ⟨found_eq, settings, rules, states⟩, states.1, states.2, rfl⟩
  · rw [reloads] at reloads'
    split at reloads'
    · cases reloads'
      exact Or.inr ⟨unusable, follows.renewSaver_eq⟩
    · cases reloads'

/-- The break between a refresh and a reload. -/
def pause (host : Host (StateM World)) (session : Session) :
    ExceptT Failure (StateM World) Unit := do
  host.note .info ("Sleeping for " ++ toString session.settings.poll ++ " seconds.")
  host.sleep session.settings.poll

/-- A refresh of the feed at an address, by rules, with a saver for what they accept. -/
def refreshBy (host : Host (StateM World)) (url : String) (rules : RuleSet) (saving : SaveSettings)
    (session : Session) : ExceptT Failure (StateM World) Session := do
  let processor : Processor := { filter := { active := rules }, state := session.processor.state }
  let refreshed ← ExceptT.lift (processor.refresh
    { fetch := fun url => (host.fetchFeed url).run
      log := host.log
      save := fun entry => (saving.save host entry).run } url)
  match refreshed.outcome with
  | .ok _ => pure ()
  | .error failure => reportFailure host failure
  return { session with processor := refreshed.processor }

/-- A session refreshes the feed and sleeps as settings and their rules want it. -/
structure WorksBy (host : Host (StateM World)) (settings : Settings) (rules : RuleSet)
    (session : Session) : Prop where
  refresh_eq : session.refresh host = session.refreshBy host settings.url rules settings.save
  poll_eq : session.settings.poll = settings.poll

theorem Follows.exists_worksBy (follows : session.Follows document) (host : Host (StateM World)) :
    ∃ settings rules, document.States settings rules ∧ session.WorksBy host settings rules := by
  refine ⟨session.settings, session.processor.filter.active,
    ⟨follows.settings, follows.rules⟩, ?_, rfl⟩
  rw [← follows.saving]
  rfl

/--
The last round of a watch: nothing comes behind the refresh,
or only a break, which may fail, or a reload that fails.
-/
inductive Ends (host : Host (StateM World)) (path : String) (once : Bool) :
    Nat → Session → World → List (Except Failure Value) → Except Failure Ending × World →
    Prop
  | failed {sleeps : Nat} {session : Session} {world reached : World} {failure : Failure}
      (refreshes : perform (session.refresh host) world = (.error failure, reached)) :
      Ends host path once sleeps session world [] (.error failure, reached)
  | last {sleeps : Nat} {session refreshed : Session} {world reached : World}
      (refreshes : perform (session.refresh host) world = (.ok refreshed, reached))
      (last : session.isLast once = true) :
      Ends host path once sleeps session world [] (.ok (.finished 0), reached)
  | disturbed {sleeps : Nat} {session refreshed : Session} {world reached woken : World}
      {failure : Failure}
      (refreshes : perform (session.refresh host) world = (.ok refreshed, reached))
      (goesOn : session.isLast once = false)
      (pauses : perform (session.pause host) reached = (.error failure, woken)) :
      Ends host path once sleeps session world [] (.error failure, woken)
  | stopped {session refreshed : Session} {world reached woken : World}
      (refreshes : perform (session.refresh host) world = (.ok refreshed, reached))
      (goesOn : session.isLast once = false)
      (pauses : perform (session.pause host) reached = (.ok (), woken)) :
      Ends host path once 0 session world [] (.ok .stopped, woken)
  | abandoned {sleeps : Nat} {session refreshed : Session} {world reached woken left : World}
      {failure : Failure}
      (refreshes : perform (session.refresh host) world = (.ok refreshed, reached))
      (goesOn : session.isLast once = false)
      (pauses : perform (session.pause host) reached = (.ok (), woken))
      (reloads : perform (refreshed.reload host path) woken = (.error failure, left)) :
      Ends host path once (sleeps + 1) session world [found host path woken] (.error failure, left)

/--
A watch with the sessions that its refreshes begin with, in order, and with what its reloads find.
A break is as long as the session wants it that the refresh before it began with.
-/
inductive Watches (host : Host (StateM World)) (path : String) (once : Bool) :
    Nat → Session → World → List Session → List (Except Failure Value) →
    Except Failure Ending × World → Prop
  | ends {sleeps : Nat} {session : Session} {world : World} {finds : List (Except Failure Value)}
      {result : Except Failure Ending × World}
        (ends : Ends host path once sleeps session world finds result) :
      Watches host path once sleeps session world [session] finds result
  | again {sleeps : Nat} {session refreshed reloaded : Session} {world reached woken left : World}
      {visits : List Session} {finds : List (Except Failure Value)}
      {result : Except Failure Ending × World}
      (refreshes : perform (session.refresh host) world = (.ok refreshed, reached))
      (goesOn : session.isLast once = false)
      (pauses : perform (session.pause host) reached = (.ok (), woken))
      (reloads : perform (refreshed.reload host path) woken = (.ok reloaded, left))
      (others : Watches host path once sleeps reloaded.renewSaver left visits finds result) :
      Watches host path once (sleeps + 1) session world (session :: visits)
        (found host path woken :: finds) result

theorem isLast_of_refresh
    (refreshes : perform (session.refresh host) world = (.ok refreshed, reached)) (once : Bool) :
    refreshed.isLast once = session.isLast once := by
  rw [isLast, isLast, (refresh_keeps refreshes).1]

theorem perform_watch_of_isLast {once : Bool} (path : String) (sleeps : Nat)
    (refreshes : perform (session.refresh host) world = (.ok refreshed, reached))
    (last : session.isLast once = true) :
    perform (session.watch host path once sleeps) world = (.ok (.finished 0), reached) := by
  rw [watch, perform_bind_of_ok refreshes, isLast_of_refresh refreshes, if_pos last]
  rfl

theorem perform_watch_of_goesOn {once : Bool} (path : String) (sleeps : Nat)
    (refreshes : perform (session.refresh host) world = (.ok refreshed, reached))
    (goesOn : session.isLast once = false) :
    perform (session.watch host path once sleeps) world =
      perform (do
        session.pause host
        match sleeps with
        | 0 => return .stopped
        | sleeps + 1 =>
            let reloaded ← refreshed.reload host path
            reloaded.renewSaver.watch host path once sleeps) reached := by
  rw [watch, perform_bind_of_ok refreshes, isLast_of_refresh refreshes, goesOn,
    if_neg Bool.false_ne_true, (refresh_keeps refreshes).1]
  cases sleeps <;> rw [pause, bind_assoc]

/-- A refresh or the break behind it ends a watch, or the watch goes on behind both. -/
theorem ends_or_goesOn (host : Host (StateM World)) (path : String) (once : Bool) (sleeps : Nat)
    (session : Session) (world : World) :
    Ends host path once sleeps session world []
      (perform (session.watch host path once sleeps) world) ∨
      ∃ refreshed reached woken, perform (session.refresh host) world =
        (.ok refreshed, reached) ∧
        session.isLast once = false ∧ perform (session.pause host) reached = (.ok (), woken) := by
  rcases refreshes : perform (session.refresh host) world with ⟨outcome, reached⟩
  cases outcome with
  | error failure =>
      left
      rw [watch, perform_bind_of_error refreshes]
      exact .failed refreshes
  | ok refreshed =>
      cases last : session.isLast once with
      | true =>
          left
          rw [perform_watch_of_isLast path sleeps refreshes last]
          exact .last refreshes last
      | false =>
          rcases pauses : perform (session.pause host) reached with ⟨_ | _, woken⟩
          · left
            rw [perform_watch_of_goesOn path sleeps refreshes last, perform_bind_of_error pauses]
            exact .disturbed refreshes last pauses
          · exact Or.inr ⟨refreshed, reached, woken, rfl, rfl, pauses⟩

theorem exists_watches (host : Host (StateM World)) (path : String) (once : Bool) (sleeps : Nat)
    (session : Session) (world : World) :
    ∃ visits finds, Watches host path once sleeps session world visits finds
      (perform (session.watch host path once sleeps) world) := by
  induction sleeps generalizing session world with
  | zero =>
      rcases ends_or_goesOn host path once 0 session world with
        ends | ⟨refreshed, reached, woken, refreshes, goesOn, pauses⟩
      · exact ⟨_, _, .ends ends⟩
      · rw [perform_watch_of_goesOn path 0 refreshes goesOn, perform_bind_of_ok pauses]
        exact ⟨_, _, .ends (.stopped refreshes goesOn pauses)⟩
  | succ sleeps ih =>
      rcases ends_or_goesOn host path once (sleeps + 1) session world with
        ends | ⟨refreshed, reached, woken, refreshes, goesOn, pauses⟩
      · exact ⟨_, _, .ends ends⟩
      rw [perform_watch_of_goesOn path _ refreshes goesOn, perform_bind_of_ok pauses]
      rcases reloads : perform (refreshed.reload host path) woken with ⟨outcome, left⟩
      cases outcome with
      | error failure =>
          rw [perform_bind_of_error reloads]
          exact ⟨_, _, .ends (.abandoned refreshes goesOn pauses reloads)⟩
      | ok reloaded =>
          rw [perform_bind_of_ok reloads]
          rcases ih reloaded.renewSaver left with ⟨visits, finds, others⟩
          exact ⟨_, _, .again refreshes goesOn pauses reloads others⟩

/--
At every refresh of a watch the session follows the
latest usable document among those found before.
-/
theorem Watches.follows_latest {once : Bool} {sleeps : Nat} {visits : List Session}
    {finds : List (Except Failure Value)} {result : Except Failure Ending × World}
    (watches : Watches host path once sleeps session world visits finds result)
    (follows : session.Follows document) {index : Nat} {visited : Session}
    (visit : visits[index]? = some visited) :
    ∃ latest, IsLatest IsUsable document (finds.take index) latest ∧
      visited.Follows latest := by
  induction watches generalizing document index with
  | ends _ =>
      cases index with
      | zero =>
          cases visit
          exact ⟨document, .nil document, follows⟩
      | succ index => cases visit
  | again refreshes goesOn pauses reloads others ih =>
      cases index with
      | zero =>
          cases visit
          exact ⟨document, .nil document, follows⟩
      | succ index =>
          rcases (follows.of_refresh refreshes).of_reload reloads with
            ⟨next, usable, followsNext⟩ | ⟨unusable, kept⟩
          · rcases ih followsNext visit with ⟨latest, isLatest, followsLatest⟩
            exact ⟨latest, isLatest.cons_of_gives usable, followsLatest⟩
          · rw [kept] at ih
            rcases ih (follows.of_refresh refreshes) visit with
              ⟨latest, isLatest, followsLatest⟩
            exact ⟨latest, isLatest.cons_of_not_gives unusable, followsLatest⟩

theorem Watches.length_visits_le {once : Bool} {sleeps : Nat} {visits : List Session}
    {finds : List (Except Failure Value)} {result : Except Failure Ending × World}
    (watches : Watches host path once sleeps session world visits finds result) :
    visits.length ≤ finds.length + 1 := by
  induction watches with
  | ends _ => simp
  | again _ _ _ _ _ ih => simpa using ih

/-- A reload that fails without ending the watch changes nothing. -/
theorem perform_reload_of_survivable {failure : Failure}
    (failed : ((session.loadRules host path).run (host.announceReload world)).1.2 = .error failure)
    (survivable : isSurvivable failure = true) :
    ∃ left, perform (session.reload host path) world = (.ok session, left) := by
  rcases session.perform_reload host path world with ⟨left, reloads⟩
  refine ⟨left, ?_⟩
  rcases session.loadRules_cases host path (host.announceReload world) with
    ⟨_, _, _, _, _, loaded⟩ | ⟨_, _, loaded⟩
  · rw [loaded] at failed
    cases failed
  · rw [loaded] at failed reloads
    cases failed
    rw [reloads]
    simp [survivable]

end Session

namespace Watcher

variable {World : Type}

/--
A watcher that has opened its ledger begins to watch with a session that follows its settings.
-/
theorem exists_watch_of_watchFeed {host : Host (StateM World)} {document : Value}
    {settings : Settings}
    {rules : RuleSet} {world opened : World} {ids : List Int} (watcher : Watcher) (once : Bool)
    (sleeps : Nat) (states : document.States settings rules)
    (opens : perform host.openLedger world = (.ok ids, opened)) :
    ∃ (session : Session) (begun : World), session.Follows document ∧
      perform (watcher.watchFeed host settings once sleeps) world =
        perform (session.watch host watcher.settings once sleeps) begun := by
  rw [watchFeed, perform_bind_of_ok opens, perform_bind, perform_liftM]
  dsimp only
  generalize ((host.note _ _).run opened).2 = noted
  rcases host.exists_perform_replay (Processor.reload {} settings.filters).2 noted with
    ⟨begun, replayed⟩
  rw [Processor.outcome_reload, states.2] at replayed
  refine ⟨{ settings, processor := (Processor.reload {} settings.filters).1,
            saving := settings.save }, begun, ⟨states.1, ?_, rfl⟩, ?_⟩
  · have inForce := Filter.load_of_compiled {} states.2
    refine states.2.trans ?_
    exact congrArg (fun filter : Filter => Except.ok filter.active) inForce.symm
  · have ran : (host.replay (Processor.reload {} settings.filters).2).run.run noted =
        (.ok rules, begun) := replayed
    rw [perform_bind, perform_lift, ran]

/--
At every refresh of a watch the address, the rules, the length of the breaks and the saver come
from one and the same document: the latest one among those found before that states settings with
usable rules, or the one that the watch began with. A reload that fails without ending the watch
changes none of them. And a watch begins with a session that follows its document.
-/
theorem watch_follows_latest {World : Type} (host : Host (StateM World)) (watcher : Watcher)
    (once : Bool) (sleeps : Nat) :
    (∀ (session : Session) (document : Value) (world : World), session.Follows document →
      ∃ visits finds,
        Session.Watches host watcher.settings once sleeps session world visits finds
          (perform (session.watch host watcher.settings once sleeps) world) ∧
        visits.length ≤ finds.length + 1 ∧
        ∀ (index : Nat) (visited : Session), visits[index]? = some visited →
          ∃ latest settings rules, IsLatest IsUsable document (finds.take index) latest ∧
            visited.Follows latest ∧ latest.States settings rules ∧
            visited.WorksBy host settings rules) ∧
    (∀ (session : Session) (document : Value) (world : World) (failure : Failure),
      session.Follows document →
      ((session.loadRules host watcher.settings).run (host.announceReload world)).1.2 =
        .error failure →
      Session.isSurvivable failure = true →
      ∃ (reloaded : Session) (left : World),
        perform (session.reload host watcher.settings) world = (.ok reloaded, left) ∧
        reloaded.renewSaver = session) ∧
    ∀ (document : Value) (settings : Settings) (rules : RuleSet) (world opened : World)
      (ids : List Int),
      document.States settings rules → perform host.openLedger world = (.ok ids, opened) →
      ∃ (session : Session) (begun : World), session.Follows document ∧
        perform (watcher.watchFeed host settings once sleeps) world =
          perform (session.watch host watcher.settings once sleeps) begun := by
  refine ⟨?_, ?_, ?_⟩
  · intro session document world follows
    rcases Session.exists_watches host watcher.settings once sleeps session world with
      ⟨visits, finds, watches⟩
    refine ⟨visits, finds, watches, watches.length_visits_le, ?_⟩
    intro index visited visit
    rcases watches.follows_latest follows visit with ⟨latest, isLatest, followsLatest⟩
    rcases followsLatest.exists_worksBy host with ⟨settings, rules, states, worksBy⟩
    exact ⟨latest, settings, rules, isLatest, followsLatest, states, worksBy⟩
  · intro session document world failure follows failed survivable
    rcases Session.perform_reload_of_survivable failed survivable with ⟨left, reloads⟩
    exact ⟨session, left, reloads, follows.renewSaver_eq⟩
  · intro document settings rules world opened ids states opens
    exact watcher.exists_watch_of_watchFeed once sleeps states opens

end Watcher

namespace TwoFeeds

def document (url : String) : Value :=
  .mapping [(.text "rss", .text url), (.text "poll", .scalar (.int 60))]

/-- A host that shows one text after the other in the place of the settings, and nothing else. -/
def host : Host (StateM (List String)) where
  log _ := pure ()
  arrangeLog _ := pure ()
  print _ := pure ()
  warn _ := pure ()
  hasPath _ := pure true
  readFile _ := do return (← get).headD ""
  writeFile _ _ := pure ()
  appendFile _ _ := pure ()
  moveFile _ _ := pure ()
  makeDirectories _ := pure ()
  document? text := if text = "" then none else some (document text)
  request _ := pure .unreachable
  fetchFeed _ := pure []
  openLedger := pure []
  ledgerHolds _ := pure false
  enterLedger _ := pure ()
  acquireLock _ := pure ()
  releaseLock _ := pure ()
  sleep _ := ExceptT.lift (modify List.tail)

def session (url : String) : Session where
  settings := { url, poll := 60, filters := {}, save := {}, logging := [] }
  processor := { filter := { active := { tieBreak := ["res", "bit", "ver"] } } }
  saving := {}

theorem follows_document : (session "first").Follows (document "first") where
  settings := by rfl
  rules := by rfl
  saving := rfl

def watcher : Watcher where
  settings := "torrentsieve.yaml"
  ledger := "torrentsieve.db"
  lock := "torrentsieve.lock"

/--
The text that is no document keeps the first feed in force, in whose place the second one is put.
-/
theorem watch_follows_latest_of_twoFeeds :
    (session "first").Follows (document "first") ∧
    (∃ visits finds,
      Session.Watches host watcher.settings false 2 (session "first")
        ["first", "", "second"] visits finds
        (perform ((session "first").watch host watcher.settings false 2)
          ["first", "", "second"]) ∧
      ∀ (index : Nat) (visited : Session), visits[index]? = some visited →
        ∃ latest settings rules,
          IsLatest IsUsable (document "first") (finds.take index) latest ∧
          visited.Follows latest ∧ latest.States settings rules ∧
          visited.WorksBy host settings rules) ∧
    (∃ (reloaded : Session) (left : List String),
      perform ((session "first").reload host watcher.settings) ["", "second"] =
        (.ok reloaded, left) ∧
      reloaded.renewSaver = session "first") ∧
    ∃ (start : Session) (begun : List String), start.Follows (document "first") ∧
      perform (watcher.watchFeed host (session "first").settings false 2) ["first", "", "second"] =
        perform (start.watch host watcher.settings false 2) begun := by
  have latest := Watcher.watch_follows_latest host watcher false 2
  rcases latest with ⟨watches, keeps, begins⟩
  refine ⟨follows_document, ?_, ?_, ?_⟩
  · rcases watches (session "first") (document "first") ["first", "", "second"] follows_document
      with ⟨visits, finds, goesThrough, _, followsLatest⟩
    exact ⟨visits, finds, goesThrough, followsLatest⟩
  · exact keeps (session "first") (document "first") ["", "second"]
      (.configuration (.unreadableDocument watcher.settings)) follows_document rfl rfl
  · exact begins (document "first") (session "first").settings
      { tieBreak := ["res", "bit", "ver"] }
      ["first", "", "second"] ["first", "", "second"] [] ⟨by rfl, by rfl⟩ rfl

end TwoFeeds

end ReleaseWatch
