import ReleaseWatch.Entry.Description
import ReleaseWatch.Proofs.Text.Runs

/-!
# Amounts of bytes

An amount is made of parts most of which may be missing, so that each part has to end where the
next one begins, whichever that is. No character that begins a part can go on with an earlier one,
and so an amount is read back whole.
-/

namespace ReleaseWatch

namespace Description

/--
An amount of bytes: digits, perhaps with a decimal part, a
blank, the letter of a multiple and the mark of a binary one.
-/
structure Amount where
  whole : Digits
  decimals : Option Digits
  gap : Option { char : Char // isBlank char }
  multiple : Option { char : Char // isMultiple char }
  binary : Bool

namespace Amount

variable (amount : Amount)

def decimalPart : List Char :=
  match amount.decimals with
  | none => []
  | some digits => '.' :: digits.text

def gapPart : List Char :=
  amount.gap.toList.map (·.val)

def multiplePart : List Char :=
  amount.multiple.toList.map (·.val)

def binaryPart : List Char :=
  if amount.binary then ['i'] else []

def text : List Char :=
  amount.whole.text ++ amount.decimalPart ++ amount.gapPart ++ amount.multiplePart ++
    amount.binaryPart ++ ['B']

end Amount

section Split

variable {rest : List Char}

theorem splitFraction_of_ne_point (ends : ∀ next ∈ rest.head?, next ≠ '.') :
    splitFraction rest = ([], rest) := by
  unfold splitFraction
  split
  · exact absurd rfl (ends '.' rfl)
  · rfl

theorem splitFraction_digits (digits : Digits)
    (ends : ∀ next ∈ rest.head?, isDigit next = false) :
    splitFraction ('.' :: (digits.text ++ rest)) = ('.' :: digits.text, rest) := by
  rcases digits.exists_eq_cons with ⟨first, others, digits_eq⟩
  have whole := splitRun_append digits.allDigits ends
  rw [digits_eq] at whole ⊢
  simp only [splitFraction, whole]

theorem splitOne_append {test : Char → Bool} {part : List Char} (short : part.length ≤ 1)
    (passes : ∀ char ∈ part, test char) (ends : ∀ next ∈ rest.head?, test next = false) :
    splitOne test (part ++ rest) = (part, rest) := by
  match part with
  | [char] => simp [splitOne, passes char]
  | [] =>
      cases rest with
      | nil => rfl
      | cons next rest => simp [splitOne, ends next rfl]

end Split

/-- The characters of the unit behind the number and the gap. -/
def unitCharacters : List Char :=
  ['K', 'M', 'G', 'T', 'P', 'i', 'B']

theorem apart_of_mem_unitCharacters : ∀ char ∈ unitCharacters,
    isBlank char = false ∧ isDigit char = false ∧ char ≠ '.' := by
  have apart : unitCharacters.all fun char => !isBlank char && !isDigit char && char !=
      '.' := by decide
  simpa [and_assoc] using apart

namespace Amount

variable (amount : Amount)

theorem isBlank_of_mem_gapPart {char : Char} (char_mem : char ∈ amount.gapPart) :
    isBlank char := by
  rcases List.mem_map.mp char_mem with ⟨blank, _, rfl⟩
  exact blank.property

theorem mem_unitCharacters_of_isMultiple {char : Char} (multiple : isMultiple char) :
    char ∈ unitCharacters := by
  have letters : ['K', 'M', 'G', 'T', 'P'] ⊆ unitCharacters := by decide
  exact letters (List.contains_iff_mem.mp multiple)

theorem isMultiple_of_mem_multiplePart {char : Char} (char_mem : char ∈ amount.multiplePart) :
    isMultiple char := by
  rcases List.mem_map.mp char_mem with ⟨letter, _, rfl⟩
  exact letter.property

theorem eq_of_mem_binaryPart {char : Char} (char_mem : char ∈ amount.binaryPart) :
    char = 'i' := by
  unfold binaryPart at char_mem
  split at char_mem
  · exact List.mem_singleton.mp char_mem
  · cases char_mem

/-! ### Where each part ends -/

def behindMultiple (rest : List Char) : List Char :=
  amount.binaryPart ++ 'B' :: rest

def behindGap (rest : List Char) : List Char :=
  amount.multiplePart ++ amount.behindMultiple rest

def behindDecimals (rest : List Char) : List Char :=
  amount.gapPart ++ amount.behindGap rest

def behindWhole (rest : List Char) : List Char :=
  amount.decimalPart ++ amount.behindDecimals rest

variable (rest : List Char)

theorem text_append : amount.text ++ rest = amount.whole.text ++ amount.behindWhole rest := by
  simp [text, behindWhole, behindDecimals, behindGap, behindMultiple]

theorem head_behindMultiple : ∀ next ∈ (amount.behindMultiple rest).head?,
    isMultiple next = false ∧ next ∈ unitCharacters := by
  apply head?_append_of_forall
  · intro char char_mem
    rw [amount.eq_of_mem_binaryPart char_mem]
    decide
  · rintro next ⟨rfl⟩
    decide

theorem head_behindGap : ∀ next ∈ (amount.behindGap rest).head?, next ∈ unitCharacters := by
  apply head?_append_of_forall
  · intro char char_mem
    exact mem_unitCharacters_of_isMultiple (amount.isMultiple_of_mem_multiplePart char_mem)
  · exact fun next isHead => (amount.head_behindMultiple rest next isHead).2

theorem head_behindDecimals :
    ∀ next ∈ (amount.behindDecimals rest).head?, isDigit next = false ∧ next ≠ '.' := by
  apply head?_append_of_forall
  · intro char char_mem
    have blank := amount.isBlank_of_mem_gapPart char_mem
    refine ⟨isDigit_of_isBlank blank, ?_⟩
    rintro rfl
    exact absurd blank (by decide)
  · exact fun next isHead =>
      (apart_of_mem_unitCharacters next (amount.head_behindGap rest next isHead)).2

theorem head_behindWhole : ∀ next ∈ (amount.behindWhole rest).head?, isDigit next = false := by
  unfold behindWhole decimalPart
  cases amount.decimals with
  | none => exact fun next isHead => (amount.head_behindDecimals rest next isHead).1
  | some digits =>
      rintro next ⟨rfl⟩
      decide

theorem splitOne_behindMultiple :
    splitOne (· == 'i') (amount.behindMultiple rest) = (amount.binaryPart, 'B' :: rest) := by
  apply splitOne_append
  · unfold binaryPart
    split <;> simp
  · intro char char_mem
    exact beq_iff_eq.mpr (amount.eq_of_mem_binaryPart char_mem)
  · rintro next ⟨rfl⟩
    rfl

theorem splitOne_behindGap :
    splitOne isMultiple (amount.behindGap rest) =
      (amount.multiplePart, amount.behindMultiple rest) := by
  apply splitOne_append
  · cases amount.multiple <;> simp [multiplePart]
  · intro char char_mem
    exact amount.isMultiple_of_mem_multiplePart char_mem
  · exact fun next isHead => (amount.head_behindMultiple rest next isHead).1

theorem splitOne_behindDecimals :
    splitOne isBlank (amount.behindDecimals rest) = (amount.gapPart, amount.behindGap rest) := by
  apply splitOne_append
  · cases amount.gap <;> simp [gapPart]
  · intro char char_mem
    exact amount.isBlank_of_mem_gapPart char_mem
  · exact fun next isHead =>
      (apart_of_mem_unitCharacters next (amount.head_behindGap rest next isHead)).1

theorem splitFraction_behindWhole :
    splitFraction (amount.behindWhole rest) = (amount.decimalPart, amount.behindDecimals rest) := by
  have ends := amount.head_behindDecimals rest
  unfold behindWhole decimalPart
  cases amount.decimals with
  | none => exact splitFraction_of_ne_point fun next isHead => (ends next isHead).2
  | some digits => exact splitFraction_digits digits fun next isHead => (ends next isHead).1

/-- An amount is read whole, whatever stands behind it. -/
theorem readAmount?_text : readAmount? (amount.text ++ rest) = some amount.text := by
  have whole := splitRun_append amount.whole.allDigits (amount.head_behindWhole rest)
  rw [text_append, text]
  rcases amount.whole.exists_eq_cons with ⟨first, others, whole_eq⟩
  rw [whole_eq] at whole ⊢
  simp only [readAmount?, whole, splitFraction_behindWhole, splitOne_behindDecimals,
    splitOne_behindGap, splitOne_behindMultiple]

/-- Whether a character can be part of an amount. -/
def isAmountChar (char : Char) : Bool :=
  isDigit char || char == '.' || isBlank char || unitCharacters.contains char

theorem isAmountChar_of_mem_unitCharacters : ∀ char ∈ unitCharacters, isAmountChar char :=
  List.all_eq_true.mp (by decide)

theorem isAmountChar_of_mem_text {char : Char} (char_mem : char ∈ amount.text) :
    isAmountChar char := by
  simp only [text, List.mem_append, or_assoc] at char_mem
  rcases char_mem with inWhole | inDecimals | inGap | inMultiple | inBinary | isUnit
  · simp [isAmountChar, amount.whole.allDigits char inWhole]
  · unfold decimalPart at inDecimals
    split at inDecimals
    · cases inDecimals
    · next digits _ =>
        rcases List.mem_cons.mp inDecimals with rfl | isDecimal
        · simp [isAmountChar]
        · simp [isAmountChar, digits.allDigits char isDecimal]
  · simp [isAmountChar, amount.isBlank_of_mem_gapPart inGap]
  · exact isAmountChar_of_mem_unitCharacters char
      (mem_unitCharacters_of_isMultiple (amount.isMultiple_of_mem_multiplePart inMultiple))
  · rw [amount.eq_of_mem_binaryPart inBinary]
    exact isAmountChar_of_mem_unitCharacters 'i' (by decide)
  · rw [List.mem_singleton.mp isUnit]
    exact isAmountChar_of_mem_unitCharacters 'B' (by decide)

end Amount

end Description

end ReleaseWatch
