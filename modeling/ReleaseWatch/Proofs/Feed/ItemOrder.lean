import Mathlib
import ReleaseWatch.Proofs.Feed.Scene
import ReleaseWatch.Proofs.Feed.Staging

/-!
# The order of items

A feed may list its items in any order. Only which item of a number comes first is seen by
staging, so two lists that agree in the order of the items of each number are staged alike, and a
refresh makes the same of them.
-/

namespace ReleaseWatch

/-- Two lists hold the same items, and those of any one number in the same order. -/
structure SameFeed (items reordered : List Item) : Prop where
  perm : items.Perm reordered
  sameOrder : ∀ number : Int,
    items.filter (·.number? == some number) = reordered.filter (·.number? == some number)

namespace SameFeed

variable {items reordered : List Item}

theorem find?_eq (same : SameFeed items reordered) (number : Int) :
    items.find? (·.number? == some number) = reordered.find? (·.number? == some number) := by
  rw [← List.head?_filter, ← List.head?_filter, same.sameOrder]

theorem isReadable_iff (same : SameFeed items reordered) :
    (∀ item ∈ items, item.IsReadable) ↔ ∀ item ∈ reordered, item.IsReadable := by
  apply forall_congr'
  intro item
  rw [same.perm.mem_iff]

theorem isNew_iff (same : SameFeed items reordered) (state : FeedState) (found : NumberedEntry) :
    state.IsNew items found ↔ state.IsNew reordered found := by
  rw [FeedState.IsNew, FeedState.IsNew, same.find?_eq]

theorem stage_eq (same : SameFeed items reordered) (state : FeedState) :
    (state.stage items).outcome = (state.stage reordered).outcome := by
  by_cases readable : ∀ item ∈ items, item.IsReadable
  · have staging := state.stage_of_isReadable readable
    have staging' := state.stage_of_isReadable (same.isReadable_iff.mp readable)
    have sameStaged := eq_of_strictlySorted (FeedState.stage_strictlySorted staging)
      (FeedState.stage_strictlySorted staging') (by
        intro found
        rw [FeedState.mem_stage_iff staging, FeedState.mem_stage_iff staging']
        exact same.isNew_iff state found)
    rw [staging, staging', sameStaged]
  · rw [state.stage_of_not_isReadable readable,
      state.stage_of_not_isReadable (mt same.isReadable_iff.mpr readable)]

theorem select_eq (same : SameFeed items reordered) (processor : Processor) :
    (processor.select items).outcome = (processor.select reordered).outcome := by
  simp only [Processor.select, Logged.outcome_bind, same.stage_eq, Logged.outcome_write]

end SameFeed

namespace Processor

variable {World : Type}

/--
Of two lists of one feed a refresh makes the same: the same outcome, be it a failure or entries,
the same processor with its state, the same calls of the saver, and the same world.
-/
theorem observe_eq_of_sameFeed {items reordered : List Item} (same : SameFeed items reordered)
    (processor : Processor) (saver : Saver World) (url : String) (scene : Scene World) :
    let first := processor.observe (.answering items) saver url scene
    let second := processor.observe (.answering reordered) saver url scene
    first.1 = second.1 ∧ first.2.calls = second.2.calls ∧ first.2.world = second.2.world := by
  rw [observe_eq, observe_eq]
  simp only [Source.answering, same.select_eq]
  cases (processor.select reordered).outcome with
  | error failure => simp
  | ok selection => simp

end Processor

namespace TwoOrders

/-- An item with a number in its guid. -/
def item (title guid : String) : Item :=
  { title := some title, guid := some guid }

/-- Items in the order of a feed, two of which have one number. -/
def items : List Item :=
  [item "late" "id=5", item "first" "id=3", item "second" "id=3"]

/-- The same items in another order, but the two of one number in the same. -/
def reordered : List Item :=
  [item "first" "id=3", item "second" "id=3", item "late" "id=5"]

/-- A processor that accepts every entry that is not authorized. -/
def processor : Processor where
  filter := { active := {
    accept := [{
      name := "accept[0]", matchers := [.equal "authorized" .authorized (.bool false)]
      gates := [], infoChecks := [], source := [] }] } }

theorem sameFeed : SameFeed items reordered where
  perm := by decide
  sameOrder := by
    intro number
    have late : (item "late" "id=5").number? = some 5 := by cbv
    have first : (item "first" "id=3").number? = some 3 := by cbv
    have second : (item "second" "id=3").number? = some 3 := by cbv
    by_cases isFive : number = 5
    · subst isFive
      simp [items, reordered, late, first, second]
    · simp [items, reordered, List.filter_cons, late, first, second, Ne.symm isFive]

/-- The two orders make one refresh, which hands over the first item of each number. -/
theorem observe_eq_of_twoOrders :
    let saver : Saver Unit := fun _ world => (.ok (), world)
    let inOrder := processor.observe (.answering items) saver "" { world := () }
    let outOfOrder := processor.observe (.answering reordered) saver "" { world := () }
    inOrder.1.handed.map (·.title) = [some "first", some "late"] ∧
    inOrder.1 = outOfOrder.1 ∧ inOrder.2.calls = outOfOrder.2.calls := by
  intro saver
  have handed : ((processor.observe (.answering items) saver "" { world := () }).1.handed.map
      (·.title)) = [some "first", some "late"] := by cbv
  have same := Processor.observe_eq_of_sameFeed sameFeed processor saver "" { world := () }
  exact ⟨handed, same.1, same.2.1⟩

end TwoOrders

end ReleaseWatch
