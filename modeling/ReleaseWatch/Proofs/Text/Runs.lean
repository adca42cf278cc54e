import Mathlib.Data.List.TakeWhile
import ReleaseWatch.Text.Blank
import ReleaseWatch.Text.Numeral
import ReleaseWatch.Text.Search

/-!
# Runs of characters

A run of characters that pass a test is split from a text as a whole if the character behind it
does not pass. What stands behind a run is given by its first character, so that a text of several
parts is split part by part.
-/

namespace ReleaseWatch

section Split

variable {test : Char → Bool} {run rest : List Char}

theorem takeWhile_append_of_ends (all : ∀ char ∈ run, test char)
    (ends : ∀ next ∈ rest.head?, test next = false) :
    (run ++ rest).takeWhile test = run := by
  have stops : rest.takeWhile test = [] := by
    cases rest with
    | nil => rfl
    | cons next rest => simp [ends next rfl]
  rw [List.takeWhile_append_of_pos all, stops, List.append_nil]

/-- What is dropped from a text ends with it if the character behind it does not pass. -/
theorem dropWhile_append (ends : ∀ next ∈ rest.head?, test next = false) :
    (run ++ rest).dropWhile test = run.dropWhile test ++ rest := by
  have kept : rest.dropWhile test = rest := by
    cases rest with
    | nil => rfl
    | cons next rest => simp [ends next rfl]
  rw [List.dropWhile_append, kept]
  split
  · next dropped => rw [List.isEmpty_iff.mp dropped, List.nil_append]
  · rfl

theorem dropWhile_append_of_ends (all : ∀ char ∈ run, test char)
    (ends : ∀ next ∈ rest.head?, test next = false) :
    (run ++ rest).dropWhile test = rest := by
  rw [dropWhile_append ends, List.dropWhile_eq_nil_iff.mpr all, List.nil_append]

theorem splitRun_append (all : ∀ char ∈ run, test char)
    (ends : ∀ next ∈ rest.head?, test next = false) :
    splitRun test (run ++ rest) = (run, rest) := by
  rw [splitRun, takeWhile_append_of_ends all ends, dropWhile_append_of_ends all ends]

theorem bne_of_not_mem {stop : Char} (absent : stop ∉ run) :
    ∀ char ∈ run, (char != stop) = true := by
  intro char char_mem
  rw [bne_iff_ne]
  rintro rfl
  exact absent char_mem

/-- What holds of the characters of a part and of the next one holds of the first one. -/
theorem head?_append_of_forall {property : Char → Prop} (part : ∀ char ∈ run, property char)
    (behind : ∀ next ∈ rest.head?, property next) :
    ∀ next ∈ (run ++ rest).head?, property next := by
  cases run with
  | nil => exact behind
  | cons char run =>
      rintro next ⟨rfl⟩
      exact part char List.mem_cons_self

end Split

/-- A nonempty run of decimal digits. -/
structure Digits where
  text : List Char
  nonempty : text ≠ []
  areDigits : text.all isDigit

namespace Digits

theorem allDigits (digits : Digits) : ∀ digit ∈ digits.text, isDigit digit :=
  List.all_eq_true.mp digits.areDigits

theorem exists_eq_cons (digits : Digits) : ∃ first others, digits.text = first :: others :=
  List.exists_cons_of_ne_nil digits.nonempty

end Digits

/-- The code points of white space, one by one. -/
def blankCodes : List Nat :=
  [0x09, 0x0A, 0x0B, 0x0C, 0x0D, 0x1C, 0x1D, 0x1E, 0x1F, 0x20, 0x85, 0xA0, 0x1680, 0x2000, 0x2001,
   0x2002, 0x2003, 0x2004, 0x2005, 0x2006, 0x2007, 0x2008, 0x2009, 0x200A, 0x2028, 0x2029, 0x202F,
   0x205F, 0x3000]

theorem mem_blankCodes_of_isBlankCode {code : Nat} (blank : isBlankCode code) :
    code ∈ blankCodes := by
  simp only [isBlankCode, Bool.or_eq_true, Bool.and_eq_true, decide_eq_true_eq, beq_iff_eq] at blank
  simp only [blankCodes, List.mem_cons, List.not_mem_nil]
  omega

theorem isDigit_of_isBlank {char : Char} (blank : isBlank char) : isDigit char = false := by
  have noDigit : ∀ code ∈ blankCodes, (digitValueIn decimalDigitRanges code).isSome =
      false := by decide
  exact noDigit char.toNat (mem_blankCodes_of_isBlankCode blank)

theorem not_blank_of_isDigit {char : Char} (digit : isDigit char) : isBlank char = false := by
  rw [Bool.eq_false_iff]
  intro blank
  simp [isDigit_of_isBlank blank] at digit

end ReleaseWatch
