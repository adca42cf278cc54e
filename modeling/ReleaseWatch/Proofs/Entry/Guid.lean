import Mathlib.Data.List.TakeWhile
import ReleaseWatch.Entry.Extraction

/-!
# The number in a guid

The number of an item is that of the first run of digits behind `id=` in its guid, once the
element around the guid is taken off. Whether a guid has a number at all depends on that run
alone: without one there is no number, and a run of more digits than are read is a failure.
-/

namespace ReleaseWatch

/-- A text without white space at its ends is its own trimmed form. -/
theorem trim_of_edges {first last : Char} (middle : List Char)
    (first_visible : isBlank first = false) (last_visible : isBlank last = false) :
    trim (first :: (middle ++ [last])) = first :: (middle ++ [last]) := by
  have reversed : (first :: (middle ++ [last])).reverse = last :: (middle.reverse ++ [first]) := by
    simp
  rw [trim, List.dropWhile_cons_of_neg (by simp [first_visible]), trimEnd, reversed,
    List.dropWhile_cons_of_neg (by simp [last_visible]), ← reversed, List.reverse_reverse]

/-- Only a text that begins with a bracket, white space aside, is taken out of an element. -/
theorem unwrap_of_not_bracket (text : String)
    (plain : (text.toList.dropWhile isBlank).head? ≠ some '<') :
    unwrap text = String.ofList (trim text.toList) := by
  have notOpening : openingElement? (text.toList.dropWhile isBlank) = none := by
    unfold openingElement?
    split
    · rename_i rest opened
      simp [opened] at plain
    · rfl
  simp [unwrap, enclosed?, notOpening]

/-- The first run of digits behind the label of a number in a guid. -/
def idDigits? (guid : String) : Option (List Char) :=
  firstMatch? readIdDigits? guid.toList

/--
A guid without a run of digits has no number, and a run of more digits than are read is a failure.
-/
theorem guidNumber_eq (guid : String) :
    guidNumber guid =
      match idDigits? guid with
      | none => .ok none
      | some digits =>
          if digits.length ≤ digitLimit then .ok (some (digitsValue digits))
          else .error .numeralTooLong := by
  simp only [guidNumber, idDigits?, natural?]
  cases firstMatch? readIdDigits? guid.toList with
  | none => rfl
  | some digits =>
      by_cases short : digits.length ≤ digitLimit
      · simp [short]
      · simp [short]

/--
A guid that is nothing but the label and digits behind it is found as it is, with all its digits.
-/
theorem idDigits?_of_label {digits : List Char} (found : digits ≠ [])
    (allDigits : ∀ digit ∈ digits, isDigit digit) :
    idDigits? (String.ofList ('i' :: 'd' :: '=' :: digits)) = some digits := by
  have taken : digits.takeWhile isDigit = digits := List.takeWhile_eq_self_iff.mpr allDigits
  have labelled : "id=".toList.isPrefixOf? ('i' :: 'd' :: '=' :: digits) = some digits := rfl
  have read : readIdDigits? ('i' :: 'd' :: '=' :: digits) = some digits := by
    simp only [readIdDigits?, labelled, Option.map_some, taken]
    cases digits with
    | nil => exact absurd rfl found
    | cons digit others => rfl
  simp [idDigits?, firstMatch?, read]

namespace Item

variable {item : Item}

theorem extract_of_guidNumber {number : Option Int}
    (parses : guidNumber item.plainGuid = .ok number) :
    item.extract = .ok (item.toEntry number) := by
  rw [extract, parses]
  rfl

theorem extractNumbered_of_guidNumber {number : Int}
    (parses : guidNumber item.plainGuid = .ok (some number)) :
    item.extractNumbered = .ok ⟨item.toEntry (some number), number, rfl⟩ := by
  rw [extractNumbered, parses]

/-- An entry whose number is asked for is the one that is made without asking. -/
theorem extract_of_extractNumbered {numbered : NumberedEntry}
    (extracted : item.extractNumbered = .ok numbered) :
    item.extract = .ok numbered.entry := by
  unfold extractNumbered at extracted
  split at extracted
  · cases extracted
  · cases extracted
  · next number parses =>
      cases extracted
      exact extract_of_guidNumber parses

end Item

end ReleaseWatch
