import ReleaseWatch.Host.Desk
import ReleaseWatch.Proofs.Outcome
import ReleaseWatch.Proofs.Watch.Mirroring

/-!
# What is done under the lock

A run of the watcher asks for its lock once it has its settings and knows where its log goes.
Everything else, that is the ledger, the feed, and the saving of entries, is reached through
the session, which leaves the lock alone, and the session stands between taking the lock and
giving it back. So whatever fails, on whichever host, nothing of this is done without the lock,
and no run ends with it.
-/

namespace ReleaseWatch

namespace Call

/-- Whether a lock is held behind a call, by whether it was held before. -/
def holds (lock : String) (held : Bool) : Call → Bool
  | .acquireLock path isGiven => held || (path == lock && isGiven)
  | .releaseLock path => held && path != lock
  | _ => held

/-- The ledger is used, the feed is fetched, or something is done that only saving an entry does. -/
def IsGuarded : Call → Prop
  | .openLedger | .ledgerHolds _ | .enterLedger _ | .fetchFeed _ | .request _
  | .appendFile _ _ | .moveFile _ _ => True
  | _ => False

theorem KeepsLock.holds_eq {call : Call} (keeps : call.KeepsLock) (lock : String) (held : Bool) :
    call.holds lock held = held := by
  cases call with
  | acquireLock path isGiven => exact keeps.elim
  | releaseLock path => exact keeps.elim
  | _ => rfl

end Call

/-- Whether a lock is held behind calls, if it was not before them. -/
def holdsLock (lock : String) (calls : List Call) : Bool :=
  calls.foldl (Call.holds lock) false

namespace Watcher

/--
What a run does without the lock: to load the settings,
to arrange its log, and to say why it does not go on.
-/
inductive Prepares (watcher : Watcher) : Call → Prop
  | hasSettings : Prepares watcher (.hasPath watcher.settings)
  | readSettings : Prepares watcher (.readFile watcher.settings)
  | makeDirectories : Prepares watcher (.makeDirectories (Path.directoryOf watcher.settings))
  | writeDefault : Prepares watcher (.writeFile watcher.settings DefaultSettings.text)
  | settingsMissing (path : String) :
    Prepares watcher (.print ((Failure.settingsMissing path).logText ++
      "\nCustomize " ++ path ++ " before rerunning torrentsieve\n"))
  | settingsInvalid (problem : ConfigurationProblem) :
    Prepares watcher (.warn ("Invalid config " ++ watcher.settings ++
      ": " ++ problem.message ++ "\n"))
  | arrangeLog (setup : LogSetup) : Prepares watcher (.arrangeLog setup)
  | starting : Prepares watcher (.log { level := .info, text := "Starting torrentsieve" })
  | refused : Prepares watcher (.acquireLock watcher.lock false)
  | alreadyRunning (path : String) :
    Prepares watcher (.log { level := .error, text := (Failure.alreadyRunning path).logText })

variable {watcher : Watcher} {call : Call} {calls : List Call}

theorem Prepares.holds_eq (prepares : watcher.Prepares call) (lock : String) (held : Bool) :
    call.holds lock held = held := by
  cases prepares with
  | refused => simp [Call.holds]
  | _ => rfl

theorem Prepares.not_isGuarded (prepares : watcher.Prepares call) : ¬call.IsGuarded := by
  cases prepares <;> exact id

/-- The calls of a run, which either never has the lock or has it from one call to the last. -/
inductive Course (watcher : Watcher) : List Call → Prop
  | unlocked {calls : List Call} (prepared : ∀ call ∈ calls, watcher.Prepares call) :
    Course watcher calls
  | locked {before inner : List Call} (prepared : ∀ call ∈ before, watcher.Prepares call)
      (keeps : ∀ call ∈ inner, call.KeepsLock) :
      Course watcher
        (before ++ .acquireLock watcher.lock true :: (inner ++ [.releaseLock watcher.lock]))

theorem foldl_holds_eq {lock : String} {held : Bool}
    (same : ∀ call ∈ calls, ∀ held, call.holds lock held = held) :
    calls.foldl (Call.holds lock) held = held := by
  induction calls with
  | nil => rfl
  | cons call rest ih =>
      rcases List.forall_mem_cons.mp same with ⟨first, others⟩
      rw [List.foldl_cons, first held, ih others]

theorem Course.prepend {before : List Call} (course : watcher.Course calls)
    (prepared : ∀ call ∈ before, watcher.Prepares call) : watcher.Course (before ++ calls) := by
  cases course with
  | unlocked others => exact .unlocked (List.forall_mem_append.mpr ⟨prepared, others⟩)
  | locked others keeps =>
      rw [← List.append_assoc]
      exact .locked (List.forall_mem_append.mpr ⟨prepared, others⟩) keeps

theorem Course.holdsLock_eq_false (course : watcher.Course calls) :
    holdsLock watcher.lock calls = false := by
  unfold holdsLock
  cases course with
  | unlocked prepared =>
      exact foldl_holds_eq fun call call_mem => (prepared call call_mem).holds_eq watcher.lock
  | locked prepared keeps =>
      rw [List.foldl_append, List.foldl_cons, List.foldl_append,
        foldl_holds_eq fun call call_mem => (prepared call call_mem).holds_eq watcher.lock,
        foldl_holds_eq fun call call_mem => (keeps call call_mem).holds_eq watcher.lock]
      simp [Call.holds]

theorem mem_of_append_cons_eq_concat {Item : Type} {first later inner : List Item}
    {item last : Item}
    (same : first ++ item :: later = inner ++ [last]) : ∀ other ∈ first, other ∈ inner := by
  rcases List.append_eq_append_iff.mp same with
    ⟨between, inner_eq, _⟩ | ⟨between, first_eq, rest_eq⟩
  · intro other other_mem
    rw [inner_eq]
    exact List.mem_append_left _ other_mem
  · -- nothing but the last item is left for both
    cases between with
    | nil =>
        rw [first_eq, List.append_nil]
        exact fun _ => id
    | cons other others => simp at rest_eq

/-- A call without the lock is one of the preparation, or the one that is given the lock. -/
theorem Course.prepares_of_not_holdsLock (course : watcher.Course calls) {before after : List Call}
    (split : calls = before ++ call :: after) (unlocked : holdsLock watcher.lock before = false) :
    watcher.Prepares call ∨ call = .acquireLock watcher.lock true := by
  cases course with
  | unlocked prepared =>
      apply Or.inl (prepared call _)
      rw [split]
      exact List.mem_append_right _ List.mem_cons_self
  | locked prepared keeps =>
      rename_i earlier inner
      rcases List.append_eq_append_iff.mp split with
        ⟨between, before_eq, rest_eq⟩ | ⟨between, earlier_eq, rest_eq⟩
      · cases between with
        | nil => exact Or.inr (List.cons.inj rest_eq).1.symm
        | cons given locked =>
            rcases List.cons.inj rest_eq with ⟨rfl, inner_eq⟩
            have inside := mem_of_append_cons_eq_concat inner_eq.symm
            rw [before_eq, holdsLock, List.foldl_append, List.foldl_cons,
              foldl_holds_eq fun call call_mem => (prepared call call_mem).holds_eq watcher.lock,
              foldl_holds_eq fun call call_mem =>
                (keeps call (inside call call_mem)).holds_eq watcher.lock] at unlocked
            simp [Call.holds] at unlocked
      · cases between with
        | nil => exact Or.inr (List.cons.inj rest_eq).1
        | cons first others =>
            rcases List.cons.inj rest_eq with ⟨rfl, _⟩
            apply Or.inl (prepared call _)
            rw [earlier_eq]
            exact List.mem_append_right _ List.mem_cons_self

/-! ## The calls of a run -/

variable {World : Type} {host : Host (StateM World)} {world : World}

/--
In a world, a part of a run with a record does what it does without one, and adds the calls of a
run. If it is in vain that it asks for the lock, these are of the preparation.
-/
def RunsAlong {α : Type} (watcher : Watcher) (inVain : Prop) (action : StateM World α)
    (recording : StateM (Recording World) α) (world : World) : Prop :=
  ∀ calls, ∃ made, watcher.Course made ∧
    (inVain → ∀ call ∈ made, watcher.Prepares call) ∧
    recording.run { world, calls } = ((action.run world).1,
      { world := (action.run world).2, calls := calls ++ made })

namespace RunsAlong

variable {α β : Type} {inVain inVain' : Prop} {action : StateM World α}
    {recording : StateM (Recording World) α}
  {next : α → StateM World β} {nextRecording : α → StateM (Recording World) β}

theorem ofMirrors (mirrors : Mirrors watcher.Prepares action recording) :
    watcher.RunsAlong inVain action recording world := by
  intro calls
  rcases mirrors world calls with ⟨made, prepared, ran⟩
  exact ⟨made, .unlocked prepared, fun _ => prepared, ran⟩

theorem bind (first : Mirrors watcher.Prepares action recording)
    (second : watcher.RunsAlong inVain (next (action.run world).1)
      (nextRecording (action.run world).1) (action.run world).2) :
    watcher.RunsAlong inVain (action >>= next) (recording >>= nextRecording) world := by
  intro calls
  rcases first world calls with ⟨made, prepared, ran⟩
  rcases second (calls ++ made) with ⟨later, course, vainly, ranLater⟩
  refine ⟨made ++ later, course.prepend prepared, fun vain =>
    List.forall_mem_append.mpr ⟨prepared, vainly vain⟩, ?_⟩
  rw [run_bind_eq, run_bind_eq, ran, ranLater, List.append_assoc]

theorem imp (along : watcher.RunsAlong inVain action recording world)
    (isVain : inVain' → inVain) :
    watcher.RunsAlong inVain' action recording world := by
  intro calls
  rcases along calls with ⟨made, course, vainly, ran⟩
  exact ⟨made, course, fun vain => vainly (isVain vain), ran⟩

end RunsAlong

/-- A lock that is refused leaves a run with its preparation. -/
theorem exists_course_of_refused {α : Type} {inVain : Prop} {action : StateM World α}
    {recording : StateM (Recording World) α} (rest : Mirrors watcher.Prepares action recording)
    (world : World) (calls : List Call) :
    ∃ made, watcher.Course made ∧ (inVain → ∀ call ∈ made, watcher.Prepares call) ∧
      recording.run { world, calls := calls ++ [.acquireLock watcher.lock false] } =
        ((action.run world).1, { world := (action.run world).2, calls := calls ++ made }) := by
  rcases rest world (calls ++ [.acquireLock watcher.lock false]) with ⟨made, prepared, ran⟩
  have allPrepared : ∀ call ∈ .acquireLock watcher.lock false :: made, watcher.Prepares call :=
    List.forall_mem_cons.mpr ⟨.refused, prepared⟩
  refine ⟨.acquireLock watcher.lock false :: made, .unlocked allPrepared, fun _ =>
    allPrepared, ?_⟩
  rw [ran, List.append_assoc]
  rfl

/-- What is done with the lock that is given stands between it and the giving back. -/
theorem exists_course_of_given {α β : Type} (host : Host (StateM World)) (watcher : Watcher)
    {action : StateM World α}
    {recording : StateM (Recording World) α} (inside : Mirrors Call.KeepsLock action recording)
    (finish : α → β) (world : World) (calls : List Call) :
    ∃ made, watcher.Course made ∧
      (do let value ← recording
          host.recorded.releaseLock watcher.lock
          return finish value : StateM (Recording World) β).run
        { world, calls := calls ++ [.acquireLock watcher.lock true] } =
      (((do let value ← action
            host.releaseLock watcher.lock
            return finish value : StateM World β).run world).1,
        { world := ((do let value ← action
                        host.releaseLock watcher.lock
                        return finish value : StateM World β).run world).2
          calls := calls ++ made }) := by
  rcases inside world (calls ++ [.acquireLock watcher.lock true]) with ⟨made, keeps, ran⟩
  refine ⟨_, .locked (List.forall_mem_nil _) keeps, ?_⟩
  have calls_eq :
      calls ++ ([] ++ .acquireLock watcher.lock true :: (made ++ [.releaseLock watcher.lock])) =
      calls ++ [.acquireLock watcher.lock true] ++ made ++ [.releaseLock watcher.lock] := by simp
  rw [run_bind_eq, ran, calls_eq]
  rfl

/-- The lock is refused in a world, or cannot be asked for. -/
def IsRefused (host : Host (StateM World)) (watcher : Watcher) (world : World) : Prop :=
  ∃ failure refused, perform (host.acquireLock watcher.lock) world = (.error failure, refused)

theorem runsAlong_watchLocked (host : Host (StateM World)) (watcher : Watcher) (settings : Settings)
    (once : Bool) (sleeps : Nat) (world : World) :
    watcher.RunsAlong (watcher.IsRefused host world) (watcher.watchLocked host settings once sleeps)
      (watcher.watchLocked host.recorded settings once sleeps) world := by
  intro calls
  have asked : (host.recorded.acquireLock watcher.lock).run.run { world, calls } =
      ((perform (host.acquireLock watcher.lock) world).1,
        { world := (perform (host.acquireLock watcher.lock) world).2
          calls := calls ++
            [.acquireLock watcher.lock (perform (host.acquireLock watcher.lock) world).1.isOk] }) :=
    rfl
  have plain : (host.acquireLock watcher.lock).run.run world =
      perform (host.acquireLock watcher.lock) world := rfl
  unfold watchLocked IsRefused
  rw [run_bind_eq, run_bind_eq, asked, plain]
  rcases perform (host.acquireLock watcher.lock) world with ⟨failure | _, reached⟩
  · refine exists_course_of_refused ?_ reached calls
    dsimp only
    split
    · exact .bind (.recordCall (fun _ => .log _) (fun _ => .alreadyRunning _) _) fun _ => .pure _
    · exact .pure _
    · next isGiven => cases isGiven
  · have mirrored := host.mirrored_recorded
    have inside := Mirrors.bind (mirrored.note .debug ("Acquired instance lock " ++ watcher.lock))
      fun _ => mirrored.watchFeed watcher settings once sleeps
    rcases exists_course_of_given host watcher inside endingOf reached calls with
      ⟨made, course, ran⟩
    refine ⟨made, course, ?_, ran⟩
    rintro ⟨_, _, refused⟩
    cases refused

theorem mirrors_refuseStart (host : Host (StateM World)) (watcher : Watcher) (failure : Failure) :
    Mirrors watcher.Prepares (watcher.refuseStart host failure)
      (watcher.refuseStart host.recorded failure) := by
  unfold refuseStart
  split
  · exact .bind (.recordCall (fun _ => .print _) (fun _ => .settingsMissing _) _) fun _ => .pure _
  · exact .bind (.recordCall (fun _ => .warn _) (fun _ => .settingsInvalid _) _) fun _ => .pure _
  · exact .pure _

/-- The world in which a run asks for the lock, by the one in which its log is arranged. -/
def startIn (host : Host (StateM World)) (arranged : World) : World :=
  ((host.note .info "Starting torrentsieve").run arranged).2

/-- A run begins with settings, arranges its log by them, and asks for the lock in a world. -/
def AsksIn (host : Host (StateM World)) (watcher : Watcher) (verbose : Bool)
    (world asking : World) : Prop :=
  ∃ settings loaded setup arranged,
    perform (Settings.load host watcher.settings) world = (.ok settings, loaded) ∧
    LogSetup.ofSettings settings.logging verbose = .ok setup ∧
    perform (host.arrangeLog setup) loaded = (.ok (), arranged) ∧ asking = startIn host arranged

theorem runsAlong_watch (host : Host (StateM World)) (watcher : Watcher) (verbose once : Bool)
    (sleeps : Nat) (world : World) :
    watcher.RunsAlong (∀ asking, watcher.AsksIn host verbose world asking →
      watcher.IsRefused host asking)
      (watcher.watch host verbose once sleeps)
      (watcher.watch host.recorded verbose once sleeps) world := by
  have files : Settings.MirrorsFiles watcher.Prepares host host.recorded watcher.settings :=
    { hasPath := .recordCall (fun _ => .hasPath _) (fun _ => .hasSettings) _
      readFile := .recordTry (fun _ => .readFile _) (fun _ => .readSettings) _
      makeDirectories := .recordTry (fun _ => .makeDirectories _) (fun _ => .makeDirectories) _
      writeFile := .recordTry (fun _ => .writeFile _ _) (fun _ => .writeDefault) _
      document? := rfl }
  unfold watch
  refine .bind files.load ?_
  rcases ran : (Settings.load host watcher.settings).run.run world with ⟨outcome, loaded⟩
  dsimp only
  split
  · exact .ofMirrors (watcher.mirrors_refuseStart host _)
  · next settings =>
      split
      · exact .ofMirrors (.pure _)
      · next setup described =>
          refine .bind (.recordCall (fun _ => .arrangeLog _) (fun _ => .arrangeLog _) _) ?_
          rcases arranges : (host.arrangeLog setup).run.run loaded with ⟨outcome, arranged⟩
          dsimp only
          split
          · exact .ofMirrors (.pure _)
          · refine .bind (.recordCall (fun _ => .log _) (fun _ => .starting) _) ?_
            apply (watcher.runsAlong_watchLocked host settings once sleeps _).imp
            intro inVain
            exact inVain _ ⟨settings, loaded, setup, arranged, ran, described, arranges, rfl⟩

theorem watch_of_alreadyRunning {verbose once : Bool} {sleeps : Nat} {asking refused : World}
    {path : String} (asks : watcher.AsksIn host verbose world asking)
    (isHeld : perform (host.acquireLock watcher.lock) asking =
      (.error (.alreadyRunning path), refused)) :
    ((watcher.watch host verbose once sleeps).run world).1 = .finished 3 := by
  rcases asks with ⟨settings, loaded, setup, arranged, loads, described, arranges, rfl⟩
  have loads' : (Settings.load host watcher.settings).run.run world = (.ok settings, loaded) :=
    loads
  have arranges' : (host.arrangeLog setup).run.run loaded = (.ok (), arranged) := arranges
  have isHeld' : (host.acquireLock watcher.lock).run.run (startIn host arranged) =
      (.error (.alreadyRunning path), refused) := isHeld
  unfold watch
  rw [run_bind_eq, loads']
  dsimp only
  rw [described]
  dsimp only
  rw [run_bind_eq, arranges']
  change ((watcher.watchLocked host settings once sleeps).run (startIn host arranged)).1 = _
  unfold watchLocked
  rw [run_bind_eq, isHeld']
  rfl

theorem watch_of_unarranged {verbose once : Bool} {sleeps : Nat} {settings : Settings}
    {loaded : World} {failure : Failure}
    (loads : perform (Settings.load host watcher.settings) world = (.ok settings, loaded))
    (unarranged : LogSetup.ofSettings settings.logging verbose = .error failure) :
    ((watcher.watch host verbose once sleeps).run world).1 = .failed failure := by
  have loads' : (Settings.load host watcher.settings).run.run world = (.ok settings, loaded) :=
    loads
  unfold watch
  rw [run_bind_eq, loads']
  dsimp only
  rw [unarranged]
  rfl

end Watcher

/-! ## A lock that another one holds -/

namespace HeldElsewhere

def watcher : Watcher where
  settings := "torrentsieve.yaml"
  ledger := "ledger.db"
  lock := "app.lock"

/-- A settings document, with a log file as it is described in it. -/
def document (logFile : Value) : Value :=
  .mapping [(.text "rss", .text "https://tracker.example/rss"),
    (.text "logging", .mapping [(.text "console", .bool false), (.text "file", logFile)])]

/-- A desk with a settings file, whose lock another one holds. -/
def begun : Desk where
  files := { files := [(["torrentsieve.yaml"], "rss")] }
  locks := { held := [(["app.lock"], "another")], kept := [("another", ["app.lock"])] }

def host (logFile : Value) : Host (StateM Desk) :=
  Desk.host "watcher" "torrentsieve.yaml" fun _ => some (document logFile)

/-- The world behind loading the settings. -/
def loaded (logFile : Value) : Desk :=
  (perform (Settings.load (host logFile) watcher.settings) begun).2

/-- The settings are loaded, and something is found in how they arrange the log. -/
theorem exists_load (logFile : Value) {Found : Type}
    {reading : Except Failure LogSetup → Option Found} {found : Found}
    (isFound : ((perform (Settings.load (host logFile) watcher.settings) begun).1.toOption.bind
      fun settings => reading (LogSetup.ofSettings settings.logging false)) = some found) :
    ∃ settings, perform (Settings.load (host logFile) watcher.settings) begun =
      (.ok settings, loaded logFile) ∧
      reading (LogSetup.ofSettings settings.logging false) = some found := by
  rcases Option.bind_eq_some_iff.mp isFound with ⟨settings, loads, isFound⟩
  exact ⟨settings, Prod.ext (Outcome.eq_ok_of_toOption loads) rfl, isFound⟩

end HeldElsewhere

end ReleaseWatch
