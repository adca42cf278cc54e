import ReleaseWatch.Proofs.Info.Order

/-!
# Comparisons by tie-break keys

Whatever the tie-break keys are, a comparison of two infos comes to a value, and all comparisons
by the same keys make one total preorder: name and episode come first, then the keys as they stand
in the list, and infos that agree under all of them tie. A longer list only decides what the
shorter one left open.

The list of keys is what the proofs go along. `compareUnder_append` splits it, so that a
comparison under the first part that is no tie hides the second part.
-/

namespace ReleaseWatch

namespace InfoKey

theorem ofLabel?_label (key : InfoKey) : ofLabel? key.label = some key := by
  cases key <;> rfl

theorem areLabels_map_label (keys : List InfoKey) : AreLabels (keys.map label) := by
  intro text text_mem
  rcases List.mem_map.mp text_mem with ⟨key, _, rfl⟩
  exact ⟨key, key.ofLabel?_label⟩

end InfoKey

namespace Info

theorem tieBreakKeys_map_label (keys : List InfoKey) :
    tieBreakKeys (keys.map InfoKey.label) = keys := by
  induction keys with
  | nil => rfl
  | cons key rest ih =>
      rw [tieBreakKeys] at ih
      rw [tieBreakKeys, List.map_cons, List.filterMap_cons_some key.ofLabel?_label, ih]

theorem compareBy_map_label (tieBreak : List InfoKey) (left right : Info) :
    compareBy (tieBreak.map InfoKey.label) left right =
      .ok (left.compareUnder right (.name :: .ep :: tieBreak)) := by
  rw [compareBy_of_areLabels (InfoKey.areLabels_map_label tieBreak), tieBreakKeys_map_label]

/-- Further keys are asked where the ones before them tie. -/
theorem compareUnder_append (keys further : List InfoKey) (left right : Info) :
    left.compareUnder right (keys ++ further) =
      (left.compareUnder right keys).then (left.compareUnder right further) := by
  induction keys with
  | nil => rfl
  | cons key rest ih => rw [List.cons_append, compareUnder, compareUnder, ih, Ordering.then_assoc]

/-- A difference that was found stays the same whatever keys are added behind. -/
theorem compareUnder_append_of_ne_eq {keys : List InfoKey} {left right : Info}
    (differ : left.compareUnder right keys ≠ .eq) (further : List InfoKey) :
    left.compareUnder right (keys ++ further) = left.compareUnder right keys := by
  rw [compareUnder_append]
  cases order : left.compareUnder right keys with
  | lt => rfl
  | eq => exact absurd order differ
  | gt => rfl

theorem ties_name_ep_iff {tieBreak : List InfoKey} {left right : Info} :
    Ties (.name :: .ep :: tieBreak) left right ↔
      left.name = right.name ∧ left.ep = right.ep ∧
      ∀ key ∈ tieBreak, left.get key = right.get key := by
  simp only [Ties, List.forall_mem_cons, get, InfoValue.text.injEq, InfoValue.number.injEq]

/--
Under any list of tie-break keys two infos can be compared, either way round to the opposite
effect, and along a chain of infos none of which is above the next the first is not above the
last. Infos tie exactly if they agree in name, episode and every key, and otherwise the first of
these in which they differ decides: a missing text comes before every text, and ranges go by start
and then by stop. Further keys do not change a decision.
-/
theorem compareBy_isTotalPreorder (tieBreak further : List InfoKey) :
    ∃ compared : Info → Info → Ordering,
      (∀ left right, compareBy (tieBreak.map InfoKey.label) left right =
        .ok (compared left right)) ∧
      (∀ left right, compared left right = (compared right left).swap) ∧
      (∀ first second third, (compared first second).isLE → (compared second third).isLE →
        (compared first third).isLE) ∧
      (∀ left right, compared left right = .eq ↔
        left.name = right.name ∧ left.ep = right.ep ∧
        ∀ key ∈ tieBreak, left.get key = right.get key) ∧
      (∀ left right, compared left right = .lt ↔
        RanksBelow (.name :: .ep :: tieBreak) left right) ∧
      ∀ left right, compared left right ≠ .eq →
        compareBy ((tieBreak ++ further).map InfoKey.label) left right =
          .ok (compared left right) := by
  refine ⟨fun left right => left.compareUnder right (.name :: .ep :: tieBreak), ?made, ?swap,
    ?trans, ?tie, ?below, ?further⟩
  case made => exact compareBy_map_label tieBreak
  case swap => exact compareUnder_swap (.name :: .ep :: tieBreak)
  case trans => exact fun _ _ _ => isLE_compareUnder_trans
  case tie =>
    intro left right
    rw [compareUnder_eq_eq_iff, ties_name_ep_iff]
  case below => exact fun _ _ => compareUnder_eq_lt_iff
  case further =>
    intro left right differ
    rw [compareBy_map_label]
    exact congrArg Except.ok (compareUnder_append_of_ne_eq differ further)

end Info

end ReleaseWatch
