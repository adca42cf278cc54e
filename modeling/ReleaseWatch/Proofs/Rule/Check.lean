import ReleaseWatch.Proofs.Outcome
import ReleaseWatch.Proofs.Text.LeadingNumeral
import ReleaseWatch.Rule.Matching

/-!
# What a check of an info asks

A rule checks what an info holds against a value. A list, at any depth of lists, offers its
elements, and one of them has to suit. Texts suit when they agree; numbers are compared with the
integer that the value stands for, and a range has to contain it. A check can fail only on a text
that begins with a numeral of too many digits, and on a mapping that cannot be written, so without
these it is decided by this meaning alone.
-/

namespace ReleaseWatch

namespace Value

/-- A value offers itself, unless it is a list; a list offers what its elements offer. -/
inductive Offers : Value → Value → Prop
  | scalar (content : Scalar) : Offers (.scalar content) (.scalar content)
  | mapping (fields : List (Scalar × Value)) : Offers (.mapping fields) (.mapping fields)
  | item {items : List Value} {item offered : Value} (item_mem : item ∈ items)
      (offers : Offers item offered) : Offers (.list items) offered

/--
Every text that a value offers begins with a numeral that can be read, if it begins with one, and
every mapping that it offers can be written.
-/
structure HasShortNumerals (value : Value) : Prop where
  texts : ∀ content, value.Offers (.text content) → HasShortNumeral content
  mappings : ∀ fields, value.Offers (.mapping fields) →
    (Value.mapping fields).hasLongInteger = false

theorem hasShortNumerals_of_mem {items : List Value}
    (short : (Value.list items).HasShortNumerals) {item : Value} (item_mem : item ∈ items) :
    item.HasShortNumerals where
  texts content offers := short.texts content (.item item_mem offers)
  mappings fields offers := short.mappings fields (.item item_mem offers)

/-- An element of a list can be written if the list can. -/
theorem hasLongInteger_of_mem {items : List Value}
    (short : (Value.list items).hasLongInteger = false) {item : Value} (item_mem : item ∈ items) :
    item.hasLongInteger = false := by
  rw [hasLongInteger] at short
  induction items with
  | nil => cases item_mem
  | cons first rest ih =>
      rw [itemsHaveLongInteger, Bool.or_eq_false_iff] at short
      rcases List.mem_cons.mp item_mem with rfl | later
      · exact short.1
      · exact ih short.2 later

theorem toText_of_short {value : Value} (short : value.hasLongInteger = false) :
    value.toText = .ok value.display := by
  rw [toText, short]
  rfl

theorem exists_leadingInteger_scalar {content : Scalar}
    (short : (Value.scalar content).HasShortNumerals) :
    ∃ value, (Value.scalar content).leadingInteger = .ok value := by
  cases content with
  | null => exact ⟨0, rfl⟩
  | bool value => exact ⟨_, rfl⟩
  | int value => exact ⟨value, rfl⟩
  | real value => exact exists_leadingInteger value.hasShortNumeral_text
  | text value => exact exists_leadingInteger (short.texts value (.scalar _))

theorem exists_leadingInteger_mapping {fields : List (Scalar × Value)}
    (short : (Value.mapping fields).HasShortNumerals) :
    ∃ value, (Value.mapping fields).leadingInteger = .ok value := by
  have written : ((Value.mapping fields).display).toList =
      '\x7b' :: (", ".intercalate (shownFields fields) ++ "\x7d").toList := by
    simp [display, shown]
  have ends : EndsWithin 0 ((Value.mapping fields).display).toList := by
    rw [written]
    exact .here (by decide)
  rw [leadingInteger, toText_of_short (short.mappings fields (.mapping _))]
  · exact exists_leadingInteger (hasShortNumeral_of_endsWithin ends (Nat.zero_le _))
  all_goals exact nofun

end Value

namespace InfoValue

/-- What an info holds is as a value that is no list expects. -/
def Suits (actual : InfoValue) (expected : Value) : Prop :=
  match actual with
  | .text content => expected.agreesWith (Entry.optionalText content)
  | .number value => expected.leadingInteger = .ok value
  | .range first stop =>
      ∃ wanted, expected.leadingInteger = .ok wanted ∧ first ≤ wanted ∧ wanted < stop

/-- What an info holds suits something that a value offers. -/
def Passes (actual : InfoValue) (expected : Value) : Prop :=
  ∃ offered, expected.Offers offered ∧ actual.Suits offered

theorem passes_scalar_iff {actual : InfoValue} {content : Scalar} :
    actual.Passes (.scalar content) ↔ actual.Suits (.scalar content) := by
  constructor
  · rintro ⟨_, ⟨⟩, suits⟩
    exact suits
  · exact fun suits => ⟨_, .scalar content, suits⟩

theorem passes_mapping_iff {actual : InfoValue} {fields : List (Scalar × Value)} :
    actual.Passes (.mapping fields) ↔ actual.Suits (.mapping fields) := by
  constructor
  · rintro ⟨_, ⟨⟩, suits⟩
    exact suits
  · exact fun suits => ⟨_, .mapping fields, suits⟩

theorem passes_list_iff {actual : InfoValue} {items : List Value} :
    actual.Passes (.list items) ↔ ∃ item ∈ items, actual.Passes item := by
  constructor
  · rintro ⟨offered, offers, suits⟩
    cases offers with
    | item item_mem offers => exact ⟨_, item_mem, offered, offers, suits⟩
  · rintro ⟨item, item_mem, offered, offers, suits⟩
    exact ⟨offered, .item item_mem offers, suits⟩

end InfoValue

namespace Value

theorem admitsOne_eq_ok {actual : InfoValue} {expected : Value}
    (readable : ∃ value, expected.leadingInteger = .ok value) :
    ∃ passed, expected.admitsOne actual = .ok passed ∧
      (passed = true ↔ actual.Suits expected) := by
  rcases readable with ⟨wanted, read⟩
  cases actual with
  | text content => exact ⟨_, rfl, Iff.rfl⟩
  | number value =>
      refine ⟨value == wanted, by simp [admitsOne, read, bind, Except.bind, pure, Except.pure],
        ?_⟩
      simp only [InfoValue.Suits, read, Except.ok.injEq, beq_iff_eq]
      exact eq_comm
  | range first stop =>
      refine ⟨first ≤ wanted && wanted < stop,
        by simp [admitsOne, read, bind, Except.bind, pure, Except.pure], ?_⟩
      simp [InfoValue.Suits, read]

mutual

/--
A check comes to an answer, and the answer is yes
exactly if the value offers something that suits.
-/
theorem admits_eq_ok (actual : InfoValue) : ∀ expected : Value, expected.HasShortNumerals →
    ∃ passed, expected.admits actual = .ok passed ∧ (passed = true ↔ actual.Passes expected)
  | .scalar content, short => by
      rw [admits, InfoValue.passes_scalar_iff]
      exact admitsOne_eq_ok (exists_leadingInteger_scalar short)
  | .mapping fields, short => by
      rw [admits, InfoValue.passes_mapping_iff]
      exact admitsOne_eq_ok (exists_leadingInteger_mapping short)
  | .list items, short => by
      rw [admits, InfoValue.passes_list_iff]
      exact anyAdmits_eq_ok actual items fun item item_mem => hasShortNumerals_of_mem short item_mem

/-- The same for the values of a list, of which one has to offer something that suits. -/
theorem anyAdmits_eq_ok (actual : InfoValue) : ∀ items : List Value,
    (∀ item ∈ items, item.HasShortNumerals) →
    ∃ passed, anyAdmits actual items = .ok passed ∧
      (passed = true ↔ ∃ item ∈ items, actual.Passes item)
  | [], short => ⟨false, by simp [anyAdmits], by simp⟩
  | item :: rest, short => by
      rcases admits_eq_ok actual item (short item (by simp)) with ⟨passed, tried, passed_iff⟩
      rcases anyAdmits_eq_ok actual rest (fun other other_mem => short other (by simp [other_mem]))
        with ⟨others, triedRest, others_iff⟩
      cases passed with
      | true =>
          refine ⟨true, ?_, by simp [← passed_iff]⟩
          simp [anyAdmits, tried, bind, Except.bind, pure, Except.pure]
      | false =>
          refine ⟨others, ?_, by simp [← passed_iff, others_iff]⟩
          simp [anyAdmits, tried, triedRest, bind, Except.bind]

end

end Value

end ReleaseWatch
