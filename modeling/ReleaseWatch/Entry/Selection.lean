import ReleaseWatch.Entry.Basic
import ReleaseWatch.Log

/-!
# Selecting versions

Of the releases of one episode only the best version is kept: the greatest by the tie-break keys,
and of those that tie in full the last one. Entries without a name in their info are no versions
of anything and are all kept. The selection is sorted by number; entries of one number stay in the
order in which they were found.
-/

namespace ReleaseWatch

namespace Entry

/-- The info of an entry that is a version of an episode, and the name of its series. -/
def version? (entry : Entry) : Option (Info × String) :=
  match entry.info with
  | none => none
  | some info => info.name.map fun name => (info, name)

end Entry

/-- What has been found of several entries. -/
structure Versions where
  /-- The entries that are no versions, in order. -/
  others : List Entry := []
  /-- The best version of each episode so far, in the order in which the episodes came up. -/
  best : List (Info × Entry) := []

namespace Versions

/-- Compares a version with the best one so far of its episode, and tells of a full tie. -/
def contest (tieBreak : List String) (name : String) (best challenger : Info × Entry) :
    Logged (Info × Entry) := do
  match ← Logged.ofExcept (challenger.1.compareBy tieBreak best.1) with
  | .lt => return best
  | .gt => return challenger
  | .eq =>
      Logged.write .debug
        ("Version tie for " ++ name ++ " ep " ++ toString challenger.1.ep ++ " between ids " ++
          Entry.idText best.2.id ++ " and " ++ Entry.idText challenger.2.id ++
          ", keeping the later one")
      return challenger

def addVersion (tieBreak : List String) (name : String) (version : Info × Entry) :
    List (Info × Entry) → Logged (List (Info × Entry))
  | [] => return [version]
  | best :: rest =>
      if best.1.identity = version.1.identity then do
        let winner ← contest tieBreak name best version
        return winner :: rest
      else do
        let others ← addVersion tieBreak name version rest
        return best :: others

def add (tieBreak : List String) (versions : Versions) (entry : Entry) : Logged Versions :=
  match entry.version? with
  | none => return { versions with others := versions.others ++ [entry] }
  | some (info, name) => do
      let best ← addVersion tieBreak name (info, entry) versions.best
      return { versions with best }

def addAll (tieBreak : List String) (versions : Versions) : List Entry → Logged Versions
  | [] => return versions
  | entry :: rest => do
      let versions ← versions.add tieBreak entry
      versions.addAll tieBreak rest

/-- Everything that is kept: first what is no version, then the best versions. -/
def kept (versions : Versions) : List Entry :=
  versions.others ++ versions.best.map (·.2)

end Versions

/-- Pairs entries with their numbers; the first one without a number fails. -/
def withNumbers : List Entry → Except Failure (List (Int × Entry))
  | [] => .ok []
  | entry :: rest => do
      let number ← entry.orderKey
      let others ← withNumbers rest
      return (number, entry) :: others

/-- Sorts entries by number, leaving those of one number in order. -/
def sortByNumber (entries : List Entry) : Except Failure (List Entry) := do
  let numbered ← withNumbers entries
  return (numbered.mergeSort fun left right => left.1 ≤ right.1).map (·.2)

/-- The best version of each episode, and every entry that is no version. -/
def selectBest (tieBreak : List String) (entries : List Entry) : Logged (List Entry) := do
  let versions ← Versions.addAll tieBreak {} entries
  Logged.ofExcept (sortByNumber versions.kept)

end ReleaseWatch
