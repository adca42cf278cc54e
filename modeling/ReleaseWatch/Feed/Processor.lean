import ReleaseWatch.Entry.Selection
import ReleaseWatch.Feed.State
import ReleaseWatch.Rule.Filter

/-!
# Processing a feed

One refresh fetches the items of the feed, stages the new entries, filters them, and selects the
best versions. Only then are the new entries committed, and the selected ones are handed over
one after the other. A failure before the commit leaves everything as it was; one of the saver
comes after the commit.
-/

namespace ReleaseWatch

/-- What a refresh needs of its surroundings, whose actions are those of the monad. -/
structure Surroundings (m : Type → Type) where
  fetch : String → m (Except Failure (List Item))
  log : LogLine → m Unit
  save : Entry → m (Except Failure Unit)

/-- The filter of a feed and what is known of the feed. -/
structure Processor where
  filter : Filter := {}
  state : FeedState := {}

/-- What a refresh decided: the entries that are new, and those of them to hand over. -/
structure Selection where
  staged : List NumberedEntry
  selected : List Entry

/-- What came of handing entries over: those that the saver was called with, and how it ended. -/
structure HandOver where
  handed : List Entry
  outcome : Except Failure Unit

structure Refreshed where
  processor : Processor
  /-- The entries that the saver was called with, in order. -/
  handed : List Entry
  outcome : Except Failure (List Entry)

namespace Processor

variable {m : Type → Type} [Monad m]

/-- Puts the rules of new settings in force; unusable ones change nothing. -/
def reload (processor : Processor) (settings : FilterSettings) : Processor × Logged RuleSet :=
  let (filter, rules) := processor.filter.load settings
  ({ processor with filter }, rules)

def select (processor : Processor) (items : List Item) : Logged Selection := do
  let staged ← processor.state.stage items
  Logged.write .info
    ("Fetched " ++ toString items.length ++ " items, " ++ toString staged.length ++
      " new above watermark " ++ toString processor.state.watermark)
  if staged.isEmpty then return { staged, selected := [] }
  let accepted ← processor.filter.accept (staged.map (·.entry))
  let selected ← selectBest processor.filter.active.tieBreak accepted
  Logged.write .info
    ("Accepted " ++ toString accepted.length ++ " entries, " ++ toString selected.length ++
      " after version dedup")
  return { staged, selected }

/-- Hands entries over one after the other until the saver fails. -/
def handOver (save : Entry → m (Except Failure Unit)) : List Entry → m HandOver
  | [] => return { handed := [], outcome := .ok () }
  | entry :: rest => do
      match ← save entry with
      | .error failure => return { handed := [entry], outcome := .error failure }
      | .ok () =>
          let others ← handOver save rest
          return { others with handed := entry :: others.handed }

/-- Commits what a refresh decided, and hands the selected entries over. -/
def complete (processor : Processor) (save : Entry → m (Except Failure Unit))
    (selection : Selection) : m Refreshed := do
  let handing ← handOver save selection.selected
  return {
    processor := { processor with state := processor.state.commit selection.staged }
    handed := handing.handed
    outcome := handing.outcome.map fun _ => selection.selected }

def refresh (processor : Processor) (surroundings : Surroundings m) (url : String) :
    m Refreshed := do
  match ← surroundings.fetch url with
  | .error failure => return { processor, handed := [], outcome := .error failure }
  | .ok items =>
      let decided := processor.select items
      decided.log.forM surroundings.log
      match decided.outcome with
      | .error failure => return { processor, handed := [], outcome := .error failure }
      | .ok selection => processor.complete surroundings.save selection

end Processor

end ReleaseWatch
