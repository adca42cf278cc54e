import ReleaseWatch.Host.Desk
import ReleaseWatch.Proofs.Files.Tree
import ReleaseWatch.Proofs.Outcome

/-!
# One holder at a time

Any number of holders take lock files and give them back, in any order, twice or without holding
them. Two records are kept of it: which files are locked, and which opening each holder keeps.
`Locks.Consistent` says that they never drift apart, so that no lock is left behind without
somebody who can give it back, and nobody can give back what another one holds. It needs that the
path of a holder leads to one file only, whatever directories are made.
-/

namespace ReleaseWatch

namespace Locks

variable {locks next : Locks} {holder other : String} {file place : Path}

/-- What is locked is what holders keep openings of, and no file is locked twice. -/
structure Consistent (locks : Locks) : Prop where
  held_iff : ∀ file holder, (file, holder) ∈ locks.held ↔ locks.kept? holder = some file
  unique : ∀ file holder other, (file, holder) ∈ locks.held → (file, other) ∈ locks.held →
    holder = other

theorem holder?_eq_none_iff :
    locks.holder? file = none ↔ ∀ holder, (file, holder) ∉ locks.held := by
  unfold holder?
  rw [List.lookup_eq_none_iff]
  constructor
  · intro unlocked holder held
    simpa using unlocked _ held
  · rintro unlocked ⟨place, holder⟩ held
    rw [bne_iff_ne]
    rintro rfl
    exact unlocked holder held

theorem acquire_eq_some_iff :
    locks.acquire holder file = some next ↔ (∀ other, (file, other) ∉ locks.held) ∧
      next = {
        held := (file, holder) :: locks.held
        kept := (holder, file) :: locks.kept.filter (·.1 != holder) } := by
  rw [← holder?_eq_none_iff]
  unfold acquire
  cases locks.holder? file with
  | none => simp [eq_comm]
  | some owner => simp

theorem acquire_eq_none_iff :
    locks.acquire holder file = none ↔ ∃ other, (file, other) ∈ locks.held := by
  have refused_iff : locks.acquire holder file = none ↔ ¬locks.holder? file = none := by
    unfold acquire
    cases locks.holder? file <;> simp
  rw [refused_iff, holder?_eq_none_iff]
  simp

theorem kept?_of_acquire (acquired : locks.acquire holder file = some next) :
    next.kept? other = if other = holder then some file else locks.kept? other := by
  rcases acquire_eq_some_iff.mp acquired with ⟨_, rfl⟩
  unfold kept?
  rw [List.lookup_cons]
  by_cases same : other = holder
  · simp [same]
  · have different : (other == holder) = false := by simpa using same
    rw [different, if_neg same]
    dsimp only
    rw [lookup_filter_ne, if_neg same]

theorem release_of_kept?_eq_none (keepsNothing : locks.kept? holder = none) :
    locks.release holder = locks := by
  unfold release
  rw [keepsNothing]

theorem kept?_release :
    (locks.release holder).kept? other = if other = holder then none else locks.kept? other := by
  unfold release
  cases keeps : locks.kept? holder with
  | none =>
      dsimp only
      split
      · next same => rw [same, keeps]
      · rfl
  | some file => exact lookup_filter_ne locks.kept holder other

theorem mem_held_release_iff (keeps : locks.kept? holder = some file) :
    (place, other) ∈ (locks.release holder).held ↔
      (place, other) ∈ locks.held ∧ (place, other) ≠ (file, holder) := by
  unfold release
  rw [keeps]
  simp [List.mem_filter]

namespace Consistent

theorem initial : Consistent {} where
  held_iff := by simp [kept?]
  unique := by simp

/-- A holder that takes a file keeps one opening still, if it kept none of another file. -/
theorem acquire (consistent : locks.Consistent)
    (onlyThis : ∀ place, locks.kept? holder = some place → place = file)
    (acquired : locks.acquire holder file = some next) : next.Consistent := by
  have kept?_eq : ∀ other,
      next.kept? other = if other = holder then some file else locks.kept? other :=
    fun other => kept?_of_acquire acquired
  rcases acquire_eq_some_iff.mp acquired with ⟨free, rfl⟩
  constructor
  · intro place other
    rw [kept?_eq, List.mem_cons, consistent.held_iff]
    by_cases same : other = holder
    · subst same
      have keepsNothing : locks.kept? other ≠ some place := by
        intro keeps
        cases onlyThis place keeps
        exact free other ((consistent.held_iff _ _).mpr keeps)
      simp [keepsNothing, eq_comm]
    · simp [same]
  · intro place first second first_mem second_mem
    rcases List.mem_cons.mp first_mem with isFirst | first_mem
    · cases isFirst
      rcases List.mem_cons.mp second_mem with isSecond | second_mem
      · cases isSecond
        rfl
      · exact absurd second_mem (free second)
    · rcases List.mem_cons.mp second_mem with isSecond | second_mem
      · cases isSecond
        exact absurd first_mem (free first)
      · exact consistent.unique place first second first_mem second_mem

theorem release (consistent : locks.Consistent) (holder : String) :
    (locks.release holder).Consistent := by
  cases keeps : locks.kept? holder with
  | none =>
      rw [release_of_kept?_eq_none keeps]
      exact consistent
  | some file =>
      constructor
      · intro place other
        rw [mem_held_release_iff keeps, kept?_release, consistent.held_iff]
        by_cases same : other = holder
        · subst same
          simp [keeps, eq_comm]
        · simp [same]
      · intro place first second first_mem second_mem
        rw [mem_held_release_iff keeps] at first_mem second_mem
        exact consistent.unique place first second first_mem.1 second_mem.1

end Consistent

end Locks

namespace Desk

variable {desk opened : Desk} {path holder other : String} {file place : Path}
    {paths : String → String}

/-- A holder holds a file: the file is locked, and by the holder's opening. -/
def Holds (desk : Desk) (holder : String) (file : Path) : Prop :=
  (file, holder) ∈ desk.locks.held

instance (desk : Desk) (holder : String) (file : Path) : Decidable (desk.Holds holder file) :=
  inferInstanceAs (Decidable (_ ∈ _))

theorem home_of_made {tree made : FileTree} {directory : String}
    (done : (if directory = "" then .ok tree else tree.makeDirectories directory) = .ok made) :
    made.home = tree.home := by
  split at done
  · cases done
    rfl
  · exact FileTree.home_makeDirectories done

/-- Opening a lock file changes no lock and not where paths lead to. -/
theorem openLock_keeps (desk : Desk) (path : String) :
    (desk.openLock path).2.locks = desk.locks ∧
    (desk.openLock path).2.files.home = desk.files.home := by
  unfold openLock
  dsimp only
  split
  · exact ⟨rfl, rfl⟩
  · next files made =>
      have sameHome := home_of_made made
      split
      · exact ⟨rfl, sameHome⟩
      · exact ⟨rfl, sameHome⟩

/-- A file that a lock path leads to, on a desk with the same working directory. -/
def LeadsToLock (desk : Desk) (path : String) (file : Path) : Prop :=
  ∃ tree : FileTree, tree.home = desk.files.home ∧ tree.writable path = .ok file

theorem leadsToLock_of_openLock (opens : desk.openLock path = (.ok file, opened)) :
    desk.LeadsToLock path file := by
  unfold openLock at opens
  dsimp only at opens
  split at opens
  · cases opens
  · next files made =>
      split at opens
      · cases opens
      · next found written =>
          cases opens
          exact ⟨files, home_of_made made, written⟩

theorem LeadsToLock.unique (leads : desk.LeadsToLock path file)
    (leads' : desk.LeadsToLock path place) : file = place := by
  rcases leads with ⟨tree, sameHome, written⟩
  rcases leads' with ⟨tree', sameHome', written'⟩
  exact FileTree.writable_unique (sameHome'.trans sameHome.symm) written written'

/--
What a holder can be asked to do. A block takes the file
when it is entered, and gives it back when it is left.
-/
inductive LockStep where
  | acquire (holder : String)
  | release (holder : String)
  | enter (holder : String)
  | exit (holder : String)

/-- What comes of a step, for holders that have a path each. -/
def takeStep (paths : String → String) (desk : Desk) : LockStep → Except Failure Unit × Desk
  | .acquire holder | .enter holder => desk.acquireLock holder (paths holder)
  | .release holder | .exit holder => (.ok (), desk.releaseLock holder)

def takeSteps (paths : String → String) (desk : Desk) (steps : List LockStep) : Desk :=
  steps.foldl (fun desk step => (desk.takeStep paths step).2) desk

/--
A holder that asks for a file has it refused if its
path cannot be opened or if anybody holds the file.
-/
theorem acquireLock_cases (desk : Desk) (holder path : String) :
    (∃ failure opened, desk.openLock path = (.error failure, opened) ∧
      desk.acquireLock holder path = (.error failure, opened)) ∨
    ∃ file opened, desk.openLock path = (.ok file, opened) ∧
      ((∃ other, desk.Holds other file) ∧
        desk.acquireLock holder path = (.error (.alreadyRunning path), opened) ∨
      (∀ other, ¬desk.Holds other file) ∧
        ∃ locks, desk.locks.acquire holder file = some locks ∧
        desk.acquireLock holder path = (.ok (), { opened with locks })) := by
  have sameLocks := (desk.openLock_keeps path).1
  unfold acquireLock
  rcases opens : desk.openLock path with ⟨_ | file, opened⟩
  · exact Or.inl ⟨_, opened, rfl, rfl⟩
  · right
    refine ⟨file, opened, rfl, ?_⟩
    rw [opens] at sameLocks
    dsimp only at sameLocks ⊢
    rw [sameLocks]
    cases acquired : desk.locks.acquire holder file with
    | none => exact Or.inl ⟨Locks.acquire_eq_none_iff.mp acquired, rfl⟩
    | some locks => exact Or.inr ⟨(Locks.acquire_eq_some_iff.mp acquired).1, locks, rfl, rfl⟩

theorem acquireLock_eq_ok_iff (opens : desk.openLock path = (.ok file, opened)) :
    (desk.acquireLock holder path).1 = .ok () ↔ ∀ other, ¬desk.Holds other file := by
  rcases desk.acquireLock_cases holder path with
    ⟨failure, reached, opens', _⟩ | ⟨found, reached, opens',
      ⟨held, done⟩ | ⟨free, locks, _, done⟩⟩
  all_goals cases opens.symm.trans opens'
  · rw [done]
    simpa using held
  · rw [done]
    simpa using free

theorem holds_acquireLock_iff (opens : desk.openLock path = (.ok file, opened))
    (succeeds : (desk.acquireLock holder path).1 = .ok ()) :
    (desk.acquireLock holder path).2.Holds other place ↔
      desk.Holds other place ∨ other = holder ∧ place = file := by
  rcases desk.acquireLock_cases holder path with
    ⟨failure, reached, opens', done⟩ | ⟨found, reached, opens',
      ⟨_, done⟩ | ⟨_, locks, acquired, done⟩⟩
  all_goals rw [done] at succeeds ⊢
  · cases succeeds
  · cases succeeds
  · cases opens.symm.trans opens'
    rcases Locks.acquire_eq_some_iff.mp acquired with ⟨_, rfl⟩
    simp [Holds, or_comm, and_comm]

theorem acquireLock_of_error {failure : Failure}
    (fails : (desk.acquireLock holder path).1 = .error failure) :
    (desk.acquireLock holder path).2.locks = desk.locks := by
  have sameLocks := (desk.openLock_keeps path).1
  rcases desk.acquireLock_cases holder path with
    ⟨_, opened, opens, done⟩ | ⟨file, opened, opens,
      ⟨_, done⟩ | ⟨_, locks, _, done⟩⟩
  all_goals rw [opens] at sameLocks; rw [done] at fails ⊢
  · exact sameLocks
  · exact sameLocks
  · cases fails

/--
The locks are consistent, and each holder keeps an opening of the file that its path leads to.
-/
structure KeepsApart (paths : String → String) (desk : Desk) : Prop where
  consistent : desk.locks.Consistent
  leads : ∀ holder file, desk.locks.kept? holder = some file →
    desk.LeadsToLock (paths holder) file

namespace KeepsApart

theorem initial (noLocks : desk.locks = {}) : desk.KeepsApart paths where
  consistent := by
    rw [noLocks]
    exact .initial
  leads := by
    rw [noLocks]
    intro holder file keeps
    cases keeps

theorem of_opened (apart : desk.KeepsApart paths) (sameLocks : opened.locks = desk.locks)
    (sameHome : opened.files.home = desk.files.home) : opened.KeepsApart paths where
  consistent := by
    rw [sameLocks]
    exact apart.consistent
  leads := by
    rw [sameLocks]
    unfold LeadsToLock
    rw [sameHome]
    exact apart.leads

theorem acquireLock (apart : desk.KeepsApart paths) (holder : String) :
    (desk.acquireLock holder (paths holder)).2.KeepsApart paths := by
  have openingKeeps := desk.openLock_keeps (paths holder)
  rcases desk.acquireLock_cases holder (paths holder) with
    ⟨failure, opened, opens, done⟩ | ⟨file, opened, opens,
      ⟨_, done⟩ | ⟨_, locks, acquired, done⟩⟩
  all_goals rw [opens] at openingKeeps
  · rw [done]
    exact apart.of_opened openingKeeps.1 openingKeeps.2
  · rw [done]
    exact apart.of_opened openingKeeps.1 openingKeeps.2
  · have leads := leadsToLock_of_openLock opens
    rw [done]
    constructor
    · -- an opening that was kept before would be one of the same file
      exact apart.consistent.acquire
        (fun place keeps => (apart.leads holder place keeps).unique leads) acquired
    · intro other place keeps
      rw [Locks.kept?_of_acquire acquired] at keeps
      unfold LeadsToLock
      rw [openingKeeps.2]
      split at keeps
      · next same =>
          cases keeps
          rw [same]
          exact leads
      · exact apart.leads other place keeps

theorem releaseLock (apart : desk.KeepsApart paths) (holder : String) :
    (desk.releaseLock holder).KeepsApart paths where
  consistent := apart.consistent.release holder
  leads := by
    intro other place keeps
    simp only [Desk.releaseLock, Locks.kept?_release] at keeps
    split at keeps
    · cases keeps
    · exact apart.leads other place keeps

theorem takeStep (apart : desk.KeepsApart paths) (step : LockStep) :
    (desk.takeStep paths step).2.KeepsApart paths := by
  cases step with
  | acquire holder => exact apart.acquireLock holder
  | release holder => exact apart.releaseLock holder
  | enter holder => exact apart.acquireLock holder
  | exit holder => exact apart.releaseLock holder

theorem takeSteps (apart : desk.KeepsApart paths) (steps : List LockStep) :
    (desk.takeSteps paths steps).KeepsApart paths := by
  induction steps generalizing desk with
  | nil => exact apart
  | cons step rest ih => exact ih (apart.takeStep step)

theorem holds_iff (apart : desk.KeepsApart paths) :
    desk.Holds holder file ↔ desk.locks.kept? holder = some file :=
  apart.consistent.held_iff file holder

theorem holds_releaseLock_iff (apart : desk.KeepsApart paths) :
    (desk.releaseLock holder).Holds other place ↔
      desk.Holds other place ∧ other ≠ holder := by
  rw [(apart.releaseLock holder).holds_iff, apart.holds_iff]
  simp only [Desk.releaseLock, Locks.kept?_release]
  by_cases same : other = holder <;> simp [same]

theorem releaseLock_of_not_holds (apart : desk.KeepsApart paths)
    (holdsNothing : ∀ place, ¬desk.Holds holder place) :
    desk.releaseLock holder = desk := by
  have keepsNothing : desk.locks.kept? holder = none := by
    cases keeps : desk.locks.kept? holder with
    | none => rfl
    | some file => exact absurd (apart.holds_iff.mpr keeps) (holdsNothing file)
  rw [Desk.releaseLock, Locks.release_of_kept?_eq_none keepsNothing]

end KeepsApart

theorem acquireLock_of_held (opens : desk.openLock path = (.ok file, opened))
    (held : ∃ other, desk.Holds other file) :
    (desk.acquireLock holder path).1 = .error (.alreadyRunning path) := by
  rcases desk.acquireLock_cases holder path with
    ⟨failure, reached, opens', _⟩ | ⟨found, reached, opens', ⟨_, done⟩ | ⟨free, _⟩⟩
  all_goals cases opens.symm.trans opens'
  · rw [done]
  · rcases held with ⟨other, holds⟩
    exact absurd holds (free other)

/--
Whatever holders were asked to do before, a file has one holder at most, which is the one that
keeps the opening; it is given to whoever asks exactly if nobody holds it, and giving back frees
what the holder held and nothing else.
-/
theorem locks_exclude_each_other (paths : String → String) (begun : Desk)
    (noLocks : begun.locks = {}) (steps : List LockStep) :
    let desk := begun.takeSteps paths steps
    (∀ file holder, desk.Holds holder file ↔ desk.locks.kept? holder = some file) ∧
    (∀ file holder other, desk.Holds holder file → desk.Holds other file → holder = other) ∧
    (∀ holder step, step = .acquire holder ∨ step = .enter holder →
      (∀ failure, (desk.takeStep paths step).1 = .error failure →
        (desk.takeStep paths step).2.locks = desk.locks) ∧
      ∀ file opened, desk.openLock (paths holder) = (.ok file, opened) →
        ((desk.takeStep paths step).1 = .ok () ↔ ∀ other, ¬desk.Holds other file) ∧
        ((desk.takeStep paths step).1 = .ok () → ∀ other place,
          (desk.takeStep paths step).2.Holds other place ↔
            desk.Holds other place ∨ other = holder ∧ place = file) ∧
        ((∃ other, desk.Holds other file) →
          (desk.takeStep paths step).1 = .error (.alreadyRunning (paths holder)))) ∧
    ∀ holder step, step = .release holder ∨ step = .exit holder →
      (desk.takeStep paths step).1 = .ok () ∧
      (∀ other place, (desk.takeStep paths step).2.Holds other place ↔
        desk.Holds other place ∧ other ≠ holder) ∧
      ((∀ place, ¬desk.Holds holder place) → (desk.takeStep paths step).2 = desk) ∧
      ∀ file, desk.Holds holder file → ∀ other next opened, next = .acquire other ∨
        next = .enter other →
        (desk.takeStep paths step).2.openLock (paths other) = (.ok file, opened) →
        ((desk.takeStep paths step).2.takeStep paths next).1 = .ok () := by
  intro desk
  have apart : desk.KeepsApart paths := (KeepsApart.initial noLocks).takeSteps steps
  refine ⟨fun file holder => apart.holds_iff, apart.consistent.unique, ?_, ?_⟩
  · intro holder step isTaking
    have taking : desk.takeStep paths step = desk.acquireLock holder (paths holder) := by
      rcases isTaking with rfl | rfl <;> rfl
    rw [taking]
    refine ⟨fun failure => acquireLock_of_error, ?_⟩
    intro file opened opens
    exact ⟨acquireLock_eq_ok_iff opens, fun succeeds other place =>
      holds_acquireLock_iff opens succeeds, acquireLock_of_held opens⟩
  · intro holder step isGivingBack
    have givingBack : desk.takeStep paths step = (.ok (), desk.releaseLock holder) := by
      rcases isGivingBack with rfl | rfl <;> rfl
    rw [givingBack]
    refine ⟨rfl, fun other place => apart.holds_releaseLock_iff, apart.releaseLock_of_not_holds,
      ?_⟩
    intro file holds other next opened isTaking opens
    have taking : (desk.releaseLock holder).takeStep paths next =
        (desk.releaseLock holder).acquireLock other (paths other) := by
      rcases isTaking with rfl | rfl <;> rfl
    rw [taking, acquireLock_eq_ok_iff opens]
    -- the holder was the only one
    intro owner ownerHolds
    rcases apart.holds_releaseLock_iff.mp ownerHolds with ⟨ownerHeld, isOther⟩
    exact isOther (apart.consistent.unique file owner holder ownerHeld holds)

end Desk

/-! ## Two that share a lock file -/

namespace SharedLock

/-- Both find the lock file in the directory that is made for it. -/
def path (_ : String) : String :=
  "run/app.lock"

/--
The second asks in vain, gives back what it does not
hold, and has the file once the first gave it back.
-/
def steps : List Desk.LockStep :=
  [.acquire "first", .enter "second", .exit "second", .release "first", .acquire "second"]

/-- The desk when so many of the steps are taken. -/
def after (count : Nat) : Desk :=
  ({} : Desk).takeSteps path (steps.take count)

theorem openLock_after (count : Nat) (few : count ≤ 5) :
    (after count).openLock "run/app.lock" =
    (.ok ["run", "app.lock"], ((after count).openLock "run/app.lock").2) := by
  refine Prod.ext (Outcome.eq_ok_of_toOption ?_) rfl
  decide +revert +kernel

theorem locks_exclude_each_other_of_shared :
    ({} : Desk).locks = {} ∧
    ((after 1).takeStep path (.enter "second")).1 = .error (.alreadyRunning "run/app.lock") ∧
    ((after 4).takeStep path (.acquire "second")).1 = .ok () ∧
    ∀ holder, (after 5).Holds holder ["run", "app.lock"] → holder = "second" := by
  refine ⟨rfl, ?_, ?_, ?_⟩
  · exact (((Desk.locks_exclude_each_other path {} rfl (steps.take 1)).2.2.1 "second"
      (.enter "second") (.inr rfl)).2 _ _ (openLock_after 1 (by decide))).2.2
      ⟨"first", by decide +kernel⟩
  · exact ((Desk.locks_exclude_each_other path {} rfl (steps.take 3)).2.2.2 "first"
      (.release "first") (.inl rfl)).2.2.2 ["run", "app.lock"] (by decide +kernel) "second"
      (.acquire "second") _ (.inl rfl) (openLock_after 4 (by decide))
  · intro holder holds
    exact (Desk.locks_exclude_each_other path {} rfl (steps.take 5)).2.1 _ holder "second" holds
      (by decide +kernel)

end SharedLock

end ReleaseWatch
