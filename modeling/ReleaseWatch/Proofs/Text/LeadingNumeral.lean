import ReleaseWatch.Number.Shortest
import ReleaseWatch.Pattern.Title

/-!
# Numerals at the start of texts

The numeral at the start of a text ends at the first character that can be no part of one. So the
texts of floating-point numbers begin with short numerals, whatever their exponents: before the
point or the exponent mark stand at most as many digits as are written positionally. A short
numeral always has a value.
-/

namespace ReleaseWatch

/-- The numeral at the start of a text, if there is one, has no more digits than are read. -/
def HasShortNumeral (text : String) : Prop :=
  ∀ numeral, Numeral.leading? text.toList = some numeral → numeral.digits.length ≤ digitLimit

theorem exists_leadingInteger {text : String} (short : HasShortNumeral text) :
    ∃ value, leadingInteger text = .ok value := by
  unfold leadingInteger
  cases read : Numeral.leading? text.toList with
  | none => exact ⟨0, rfl⟩
  | some numeral =>
      simp [Numeral.value?, natural?, short numeral read]

/-- A character that stands neither before nor in a numeral. -/
def endsNumeral (char : Char) : Bool :=
  !isDigit char && !isBlank char && char != '-' && char != '+'

/-- At most so many characters of a text stand before one that ends a numeral. -/
inductive EndsWithin : Nat → List Char → Prop
  | here {bound : Nat} {stop : Char} {after : List Char} (ending : endsNumeral stop) :
      EndsWithin bound (stop :: after)
  | later {bound : Nat} {char : Char} {rest : List Char} (ends : EndsWithin bound rest) :
      EndsWithin (bound + 1) (char :: rest)

namespace EndsWithin

variable {bound : Nat} {text : List Char}

theorem mono (ends : EndsWithin bound text) {greater : Nat} (le : bound ≤ greater) :
    EndsWithin greater text := by
  induction ends generalizing greater with
  | here ending => exact .here ending
  | later ends ih =>
      obtain ⟨smaller, rfl⟩ : ∃ smaller, greater = smaller + 1 := ⟨greater - 1, by omega⟩
      exact .later (ih (by omega))

/-- Digits and white space, and everything else, may stand before the end. -/
theorem append (before : List Char) {stop : Char} (after : List Char) (ending : endsNumeral stop)
    (bounded : before.length ≤ bound) : EndsWithin bound (before ++ stop :: after) := by
  induction before generalizing bound with
  | nil => exact .here ending
  | cons first rest ih =>
      rw [List.length_cons] at bounded
      obtain ⟨smaller, rfl⟩ : ∃ smaller, bound = smaller + 1 := ⟨bound - 1, by omega⟩
      exact .later (ih (by omega))

theorem dropWhile_isBlank (ends : EndsWithin bound text) :
    EndsWithin bound (text.dropWhile isBlank) := by
  induction ends with
  | @here bound stop after ending =>
      have visible : isBlank stop = false := by
        simp only [endsNumeral, Bool.and_eq_true, Bool.not_eq_true'] at ending
        exact ending.1.1.2
      rw [List.dropWhile_cons_of_neg (by simp [visible])]
      exact .here ending
  | @later bound char rest ends ih =>
      by_cases blank : isBlank char
      · rw [List.dropWhile_cons_of_pos blank]
        exact ih.mono (by omega)
      · rw [List.dropWhile_cons_of_neg blank]
        exact .later ends

theorem splitSign (ends : EndsWithin bound text) :
    EndsWithin bound (Numeral.splitSign text).2 := by
  cases ends with
  | @here bound stop after ending =>
      have noSign : Numeral.splitSign (stop :: after) = (false, stop :: after) := by
        unfold Numeral.splitSign
        split
        · rename_i same
          cases same
          simp [endsNumeral] at ending
        · rename_i same
          cases same
          simp [endsNumeral] at ending
        · rfl
      rw [noSign]
      exact .here ending
  | @later bound char rest ends =>
      unfold Numeral.splitSign
      split
      · rename_i same
        cases same
        exact ends.mono (by omega)
      · rename_i same
        cases same
        exact ends.mono (by omega)
      · exact .later ends

theorem length_takeWhile_isDigit_le (ends : EndsWithin bound text) :
    (text.takeWhile isDigit).length ≤ bound := by
  induction ends with
  | @here bound stop after ending =>
      have noDigit : isDigit stop = false := by
        simp only [endsNumeral, Bool.and_eq_true, Bool.not_eq_true'] at ending
        exact ending.1.1.1
      simp [noDigit]
  | @later bound char rest ends ih =>
      by_cases digit : isDigit char
      · simpa [digit] using ih
      · simp [digit]

/-- A numeral at the start of a text has no more digits than stand before its end. -/
theorem length_digits_le (ends : EndsWithin bound text) {numeral : Numeral}
    (read : Numeral.leading? text = some numeral) : numeral.digits.length ≤ bound := by
  have bounded := ends.dropWhile_isBlank.splitSign.length_takeWhile_isDigit_le
  simp only [Numeral.leading?] at read
  split at read
  · cases read
  · cases read
    exact bounded

end EndsWithin

theorem hasShortNumeral_of_endsWithin {text : String} {bound : Nat}
    (ends : EndsWithin bound text.toList) (short : bound ≤ digitLimit) :
    HasShortNumeral text := by
  intro numeral read
  exact Nat.le_trans (ends.length_digits_le read) short

namespace Binary64

theorem endsNumeral_point : endsNumeral '.' = true := by decide

theorem endsNumeral_mark : endsNumeral 'e' = true := by decide

/-- Before the point or the exponent mark stand at most sixteen digits. -/
theorem endsWithin_layOut (digits : List Char) (place : Int) :
    EndsWithin 16 (layOut digits place) := by
  unfold layOut
  split
  · match digits with
    | [] => exact .append ['0'] _ endsNumeral_mark (by simp)
    | [digit] => exact .append [digit] _ endsNumeral_mark (by simp)
    | digit :: second :: rest => exact .append [digit] _ endsNumeral_point (by simp)
  · split
    · exact .append ['0'] _ endsNumeral_point (by simp)
    · apply EndsWithin.append _ _ endsNumeral_point
      rw [List.length_append, List.length_take, List.length_replicate]
      omega

theorem hasShortNumeral_text (number : Binary64) : HasShortNumeral number.text := by
  have short : 17 ≤ digitLimit := by decide
  refine hasShortNumeral_of_endsWithin ?_ short
  cases number with
  | notANumber => exact .here (by decide)
  | infinite negative =>
      cases negative with
      | false => exact .here (by decide)
      | true => exact .later (.here (by decide))
  | finite negative significand exponent =>
      have unsigned : ∀ digits place, EndsWithin 16
          (if significand = 0 then ['0', '.', '0'] else layOut digits place) := by
        intro digits place
        split
        · exact .append ['0'] _ endsNumeral_point (by simp)
        · exact endsWithin_layOut digits place
      simp only [text, String.toList_ofList]
      split
      · exact .later (unsigned _ _)
      · exact (unsigned _ _).mono (by omega)

end Binary64

end ReleaseWatch
