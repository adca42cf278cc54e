import ReleaseWatch.Entry.Extraction
import ReleaseWatch.Log

/-!
# What is known of a feed

The numbers of a feed grow, so the greatest one stored is a watermark: an entry is new when its
number is above it. Entries are staged first, which changes nothing, and committed later. Commits
keep the entries sorted by number, both in all and by category.
-/

namespace ReleaseWatch

/-- Sorts entries by number, leaving those of one number in order. -/
def sortNumbered (entries : List NumberedEntry) : List NumberedEntry :=
  entries.mergeSort fun left right => left.number ≤ right.number

/-- The entries of a feed that were seen so far. -/
structure FeedState where
  entries : List NumberedEntry := []
  watermark : Int := -1
  /-- The watermark before the latest commit. -/
  previousWatermark : Int := -1
  /-- The entries of each category, the categories in the order in which they came up. -/
  categories : List (String × List NumberedEntry) := []

namespace FeedState

/-- Adds an item to what is staged if it is new; of several with one number the first counts. -/
def stageItem (state : FeedState) (staged : List NumberedEntry) (item : Item) :
    Logged (List NumberedEntry) :=
  match item.extractNumbered with
  | .ok found =>
      if state.watermark < found.number ∧ ¬ staged.any (·.number == found.number) then
        return staged ++ [found]
      else return staged
  | .error (.extraction problem) => do
      Logged.write .warning
        ("Skipping feed item " ++ quotedTitle item.title ++ ": " ++ problem.message)
      return staged
  | .error failure => Logged.ofExcept (.error failure)

/-- Adds items to what is staged, one after the other. -/
def stageFrom (state : FeedState) (staged : List NumberedEntry) :
    List Item → Logged (List NumberedEntry)
  | [] => return staged
  | item :: rest => do
      let staged ← state.stageItem staged item
      state.stageFrom staged rest

/-- The new entries among items, sorted by number; an item without a number is skipped. -/
def stage (state : FeedState) (items : List Item) : Logged (List NumberedEntry) := do
  let staged ← state.stageFrom [] items
  return sortNumbered staged

def addToCategory (categories : List (String × List NumberedEntry)) (added : NumberedEntry) :
    List (String × List NumberedEntry) :=
  match categories with
  | [] => [(added.entry.category, [added])]
  | (name, entries) :: rest =>
      if name = added.entry.category then (name, entries ++ [added]) :: rest
      else (name, entries) :: addToCategory rest added

/-- The greatest number of entries, or the given one without any. -/
def greatestNumber (fallback : Int) : List NumberedEntry → Int
  | [] => fallback
  | first :: rest => rest.foldl (fun greatest entry => max greatest entry.number) first.number

/-- Stores the entries above the watermark, which moves up to the greatest of them. -/
def commit (state : FeedState) (staged : List NumberedEntry) : FeedState :=
  let added := staged.filter fun entry => state.watermark < entry.number
  { entries := sortNumbered (state.entries ++ added)
    watermark := greatestNumber state.watermark added
    previousWatermark := state.watermark
    categories := added.foldl addToCategory state.categories }

/-- Stages items and commits them; if staging fails, the state stays as it is. -/
def update (state : FeedState) (items : List Item) : FeedState × Logged (List NumberedEntry) :=
  let staged := state.stage items
  match staged.outcome with
  | .ok added => (state.commit added, staged)
  | .error _ => (state, staged)

end FeedState

end ReleaseWatch
