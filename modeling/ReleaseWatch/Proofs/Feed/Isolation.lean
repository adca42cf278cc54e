import Mathlib
import ReleaseWatch.Proofs.Entry.Guid
import ReleaseWatch.Proofs.Feed.Staging

/-!
# Items that cannot be used

An item without a number is skipped: the others are staged as if it were not there. This does not
extend to an item whose numeral has more digits than are read. Its failure is none of extraction,
so it is not turned into a skip, and one such item keeps all others from being staged.
-/

namespace ReleaseWatch

namespace Item

/-- Whether the item has a number that can be read. -/
def isUsable (item : Item) : Bool :=
  item.number?.isSome

/-- The numeral in the guid of an item, if there is one, has no more digits than are read. -/
def HasShortNumeral (item : Item) : Prop :=
  ∀ digits, idDigits? item.plainGuid = some digits → digits.length ≤ digitLimit

theorem isReadable_iff_hasShortNumeral {item : Item} :
    item.IsReadable ↔ item.HasShortNumeral := by
  rw [IsReadable, HasShortNumeral, guidNumber_eq]
  cases idDigits? item.plainGuid with
  | none => simp
  | some digits =>
      by_cases short : digits.length ≤ digitLimit
      · simp [short]
      · simp [short]

theorem isUsable_of_not_isReadable {item : Item} (unreadable : ¬item.IsReadable) :
    item.isUsable = false := by
  simp [isUsable, number?, guidNumber_of_not_isReadable unreadable]

end Item

namespace FeedState

theorem foldl_stagedWith_usable (state : FeedState) (staged : List NumberedEntry)
    (items : List Item) :
    (items.filter (·.isUsable)).foldl state.stagedWith staged =
      items.foldl state.stagedWith staged := by
  rw [List.foldl_filter]
  congr
  funext staged item
  cases read : item.number? with
  | none => simp [Item.isUsable, stagedWith, read]
  | some number => simp [Item.isUsable, read]

/-- An update ends as its staging does. -/
theorem update_outcome (state : FeedState) (items : List Item) :
    (state.update items).2.outcome = (state.stage items).outcome := by
  simp only [update]
  split <;> rfl

/--
If no numeral among the items is too long, staging and updating succeed, and they come to the same
without the items that cannot be used. Otherwise both fail, and the state stays as it is.
-/
theorem stage_eq_stage_usable (state : FeedState) (items : List Item) :
    let usable := items.filter (·.isUsable)
    ((∀ item ∈ items, item.HasShortNumeral) →
      ∃ staged, (state.stage items).outcome = .ok staged ∧
        (state.stage usable).outcome = .ok staged ∧
        (state.update items).2.outcome = .ok staged ∧
        (state.update usable).2.outcome = .ok staged ∧
        (state.update items).1 = (state.update usable).1) ∧
    ((∃ item ∈ items, ¬item.HasShortNumeral) →
      (state.stage items).outcome = .error .numeralTooLong ∧
        (state.update items).2.outcome = .error .numeralTooLong ∧
        (state.update items).1 = state) := by
  intro usable
  constructor
  · intro short
    have readable : ∀ item ∈ items, item.IsReadable := by
      intro item item_mem
      exact Item.isReadable_iff_hasShortNumeral.mpr (short item item_mem)
    have usableReadable : ∀ item ∈ usable, item.IsReadable := by
      intro item item_mem
      exact readable item (List.mem_filter.mp item_mem).1
    have staging := state.stage_of_isReadable readable
    have usableStaging := state.stage_of_isReadable usableReadable
    rw [foldl_stagedWith_usable] at usableStaging
    rw [update_outcome, update_outcome]
    refine ⟨_, staging, usableStaging, staging, usableStaging, ?_⟩
    rw [update_of_stage staging, update_of_stage usableStaging]
  · rintro ⟨item, item_mem, long⟩
    have unreadable : ¬∀ item ∈ items, item.IsReadable := by
      intro readable
      exact long (Item.isReadable_iff_hasShortNumeral.mp (readable item item_mem))
    have staging := state.stage_of_not_isReadable unreadable
    rw [update_outcome]
    refine ⟨staging, staging, ?_⟩
    simp only [update, staging]

end FeedState

namespace LongNumeral

/-- One digit more than are read. -/
def digits : List Char :=
  List.replicate (digitLimit + 1) '1'

/-- An item with that numeral. -/
def long : Item :=
  { title := some "long", guid := some (String.ofList ('i' :: 'd' :: '=' :: digits)) }

/-- An item with a number. -/
def good : Item :=
  { title := some "good", guid := some "id=7" }

theorem plainGuid_long : long.plainGuid = String.ofList ('i' :: 'd' :: '=' :: digits) := by
  have trimmed : trim ('i' :: 'd' :: '=' :: digits) = 'i' :: 'd' :: '=' :: digits := by
    rw [digits, List.replicate_succ']
    exact trim_of_edges ('d' :: '=' :: List.replicate digitLimit '1') rfl rfl
  have plain : ((('i' :: 'd' :: '=' :: digits).dropWhile isBlank).head?) ≠ some '<' := by
    rw [List.dropWhile_cons_of_neg (by decide)]
    simp
  have unwrapped := unwrap_of_not_bracket (String.ofList ('i' :: 'd' :: '=' :: digits))
    (by simpa using plain)
  simpa [Item.plainGuid, long, trimmed] using unwrapped

theorem not_hasShortNumeral_long : ¬long.HasShortNumeral := by
  intro short
  have found : idDigits? long.plainGuid = some digits := by
    rw [plainGuid_long]
    apply idDigits?_of_label
    · simp [digits]
    · intro digit digit_mem
      rw [List.eq_of_mem_replicate digit_mem]
      decide
  have bounded := short digits found
  rw [digits, List.length_replicate] at bounded
  omega

theorem not_isReadable_long : ¬long.IsReadable :=
  mt Item.isReadable_iff_hasShortNumeral.mp not_hasShortNumeral_long

theorem stage_long_good :
    (({} : FeedState).stage [long, good]).outcome = .error .numeralTooLong := by
  apply FeedState.stage_of_not_isReadable
  intro readable
  exact not_isReadable_long (readable long List.mem_cons_self)

/-- The long numeral gives no usable number, and yet it keeps the other item from being staged. -/
theorem stage_ne_stage_usable :
    [long, good].filter (·.isUsable) = [good] ∧
    (({} : FeedState).stage [good]).outcome = .ok [good.numbered 7] ∧
    (({} : FeedState).stage [long, good]).outcome = .error .numeralTooLong ∧
    (({} : FeedState).update [long, good]).2.outcome = .error .numeralTooLong := by
  have long_unusable := Item.isUsable_of_not_isReadable not_isReadable_long
  have good_usable : good.isUsable = true := by cbv
  rw [FeedState.update_outcome]
  refine ⟨?_, by cbv, stage_long_good, stage_long_good⟩
  rw [List.filter_cons_of_neg (by simp [long_unusable]), List.filter_cons_of_pos good_usable,
    List.filter_nil]

end LongNumeral

end ReleaseWatch
