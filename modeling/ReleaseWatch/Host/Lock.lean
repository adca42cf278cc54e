import ReleaseWatch.Files.Tree

/-!
# Locks

A lock file is held by at most one holder at a time. A holder opens the file anew whenever it asks
for the lock, and each opening asks for itself: the file is refused to whoever asks while it is
locked, its own holder included. What holders keep is the opening that was given the lock. They
give the lock back by it, so that giving back without holding anything changes nothing.
-/

namespace ReleaseWatch

/--
The lock files that are held, each with the name of
its holder, and the openings that the holders keep.
-/
structure Locks where
  held : List (Path × String) := []
  /-- The file of the opening that a holder keeps. -/
  kept : List (String × Path) := []

namespace Locks

/-- The holder of a file. -/
def holder? (locks : Locks) (file : Path) : Option String :=
  locks.held.lookup file

/-- The file of the opening that a holder keeps, if it keeps one. -/
def kept? (locks : Locks) (holder : String) : Option Path :=
  locks.kept.lookup holder

/-- Takes a file and keeps the opening, unless the file is held; the opening is closed then. -/
def acquire (locks : Locks) (holder : String) (file : Path) : Option Locks :=
  match locks.holder? file with
  | some _ => none
  | none =>
      some {
        held := (file, holder) :: locks.held
        kept := (holder, file) :: locks.kept.filter (·.1 != holder) }

/-- Gives back what the opening of a holder was given, and closes the opening. -/
def release (locks : Locks) (holder : String) : Locks :=
  match locks.kept? holder with
  | none => locks
  | some file =>
      { held := locks.held.filter (· != (file, holder))
        kept := locks.kept.filter (·.1 != holder) }

end Locks

end ReleaseWatch
