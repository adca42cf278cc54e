import Mathlib
import ReleaseWatch.Macro.Template

/-!
# Borders and holes in templates

A text that was filled may be read as a template again. Its parts must not change each other then
across the borders between them. A backslash at the end of an argument would escape a hole behind
it, and a dollar sign would begin one with a digit behind it; and so would a dollar sign in the
text around an argument, with a digit of the argument. In a `Template` every dollar sign begins a
hole already. What is put in its holes is read as it would be on its own, if it ends apart.
-/

namespace ReleaseWatch

/-! ## Borders -/

/-- What follows a text is read as it would be on its own. -/
def EndsApart (text : List Char) : Prop :=
  ∀ last ∈ text.getLast?, last ≠ '\\' ∧ last ≠ '$'

instance (text : List Char) : Decidable (EndsApart text) :=
  Option.decidableForallMem text.getLast?

/--
A text in which every dollar sign begins a hole;
`escaped` tells whether a backslash stands before it.
-/
inductive Template : (escaped : Bool) → (text : List Char) → Prop
  | nil {escaped : Bool} : Template escaped []
  | literal {escaped : Bool} {char : Char} {rest : List Char} (noSign : char ≠ '$')
      (others : Template (char == '\\') rest) : Template escaped (char :: rest)
  | hole {digit : Char} {index : Nat} {rest : List Char}
      (isHole : Piece.holeIndex? digit = some index)
      (others : Template false rest) : Template false ('$' :: digit :: rest)

section Borders

variable {char : Char} {text rest : List Char}

theorem endsApart_cons_iff :
    EndsApart (char :: rest) ↔
      EndsApart rest ∧ (rest = [] → char ≠ '\\' ∧ char ≠ '$') := by
  cases rest with
  | nil => simp [EndsApart]
  | cons next others => simp [EndsApart, List.getLast?_cons_cons]

theorem EndsApart.append (first : EndsApart text) (second : EndsApart rest) :
    EndsApart (text ++ rest) := by
  intro last last_mem
  rw [List.getLast?_append] at last_mem
  rcases ends : rest.getLast? with _ | other
  · rw [ends, Option.none_or] at last_mem
    exact first last last_mem
  · rw [ends, Option.some_or] at last_mem
    exact second last (ends ▸ last_mem)

end Borders

namespace Piece

variable {escaped : Bool} {char digit : Char} {index : Nat} {text rest : List Char}
    {arguments : List Value}

theorem ofText_literal (noSign : char ≠ '$') :
    ofText escaped (char :: rest) = .literal char :: ofText (char == '\\') rest := by
  rw [ofText]
  · exact fun isSign _ => noSign isSign
  · exact fun _ _ isSign _ => noSign isSign

theorem ofText_hole (isHole : holeIndex? digit = some index) :
    ofText false ('$' :: digit :: rest) = .hole index :: ofText false rest := by
  rw [ofText]
  simp only [isHole]

theorem ofText_sign
    (noHole : ∀ index, escaped = false → holeIndex? digit = some index → False) :
    ofText escaped ('$' :: digit :: rest) = .literal '$' :: ofText false (digit :: rest) := by
  rw [ofText]
  exact noHole

/-- The border between two texts is none for the reader, if the first one ends apart. -/
theorem ofText_append (ends : EndsApart text) :
    ofText escaped (text ++ rest) =
      ofText escaped text ++ ofText (escaped && text.isEmpty) rest := by
  fun_induction ofText escaped text with
  | case1 => simp
  | case2 => exact absurd rfl (ends '$' rfl).2
  | case3 digit others index isHole ih =>
      have endsOthers := (endsApart_cons_iff.mp (endsApart_cons_iff.mp ends).1).1
      rw [List.cons_append, List.cons_append, ofText_hole isHole, ih endsOthers]
      simp
  | case4 escaped digit others noHole ih =>
      rw [List.cons_append, List.cons_append, ofText_sign noHole, ← List.cons_append,
        ih (endsApart_cons_iff.mp ends).1]
      simp
  | case5 escaped char others notLast notBefore ih =>
      have noSign : char ≠ '$' := by
        rintro rfl
        cases others with
        | nil => exact notLast rfl rfl
        | cons digit others => exact notBefore digit others rfl rfl
      rcases endsApart_cons_iff.mp ends with ⟨endsOthers, lastApart⟩
      rw [List.cons_append, ofText_literal noSign, ih endsOthers]
      cases others with
      | nil =>
          have noEscape : (char == '\\') = false := by simp [(lastApart rfl).1]
          simp [noEscape]
      | cons next others => simp

/-- A template has no dollar sign for a character. -/
theorem template_iff : Template escaped text ↔ .literal '$' ∉ ofText escaped text := by
  constructor
  · intro template
    induction template with
    | nil => simp [ofText]
    | literal noSign others ih =>
        rw [ofText_literal noSign]
        simp [ih, Ne.symm noSign]
    | hole isHole others ih =>
        rw [ofText_hole isHole]
        simp [ih]
  · intro noLiteral
    fun_induction ofText escaped text with
    | case1 => exact .nil
    | case2 => exact absurd List.mem_cons_self noLiteral
    | case3 digit others index isHole ih => exact .hole isHole (ih (by simpa using noLiteral))
    | case4 => exact absurd List.mem_cons_self noLiteral
    | case5 escaped char others notLast notBefore ih =>
        rcases not_or.mp (mt List.mem_cons.mpr noLiteral) with ⟨differs, noLiteralRest⟩
        exact .literal (fun isSign => differs (by rw [isSign])) (ih noLiteralRest)

theorem ofText_of_not_mem (noSign : '$' ∉ text) : ofText escaped text = text.map .literal := by
  induction text generalizing escaped with
  | nil => rfl
  | cons char rest ih =>
      rcases not_or.mp (mt List.mem_cons.mpr noSign) with ⟨differs, absent⟩
      rw [ofText_literal (Ne.symm differs), ih absent, List.map_cons]

theorem fill_literals (text : List Char) : fill arguments (text.map .literal) = .ok text := by
  induction text with
  | nil => rfl
  | cons char rest ih =>
      rw [List.map_cons, fill, ih]
      rfl

theorem fill_literal_eq_ok_iff {pieces : List Piece} {filled : List Char} :
    fill arguments (.literal char :: pieces) = .ok filled ↔
      ∃ others, fill arguments pieces = .ok others ∧ char :: others = filled := by
  rw [fill]
  cases fill arguments pieces <;> simp [Except.map]

theorem fill_hole_eq_ok_iff {pieces : List Piece} {filled : List Char} :
    fill arguments (.hole index :: pieces) = .ok filled ↔
      ∃ argument, arguments[index - 1]? = some argument ∧ argument.hasLongInteger = false ∧
        ∃ others, fill arguments pieces = .ok others ∧
          (argumentText argument).toList ++ others = filled := by
  rw [fill]
  cases arguments[index - 1]? with
  | none => simp
  | some argument =>
      cases isLong : argument.hasLongInteger with
      | true => simp [isLong]
      | false => cases fill arguments pieces <;> simp [isLong, Except.map]

theorem fill_append {pieces others : List Piece} {first last : List Char}
    (filledFirst : fill arguments pieces = .ok first)
    (filledLast : fill arguments others = .ok last) :
    fill arguments (pieces ++ others) = .ok (first ++ last) := by
  induction pieces generalizing first with
  | nil =>
      cases filledFirst
      exact filledLast
  | cons piece rest ih =>
      cases piece with
      | literal content =>
          rcases fill_literal_eq_ok_iff.mp filledFirst with ⟨between, filledRest, rfl⟩
          exact fill_literal_eq_ok_iff.mpr ⟨_, ih filledRest, rfl⟩
      | hole index =>
          rcases fill_hole_eq_ok_iff.mp filledFirst with
            ⟨argument, found, isShort, between, filledRest, rfl⟩
          exact fill_hole_eq_ok_iff.mpr ⟨argument, found, isShort, _, ih filledRest, by simp⟩

/-- Why the hole of a number is not filled from arguments. -/
inductive Unfilled (arguments : List Value) (index : Nat) : HoleProblem → Prop
  | missing (absent : arguments[index - 1]? = none) : Unfilled arguments index (.missing index)
  | tooLong {argument : Value} (given : arguments[index - 1]? = some argument)
      (isLong : argument.hasLongInteger = true) : Unfilled arguments index .tooLong

theorem map_eq_error_iff {outcome : Except HoleProblem (List Char)}
    {change : List Char → List Char} {problem : HoleProblem} :
    outcome.map change = .error problem ↔ outcome = .error problem := by
  cases outcome <;> simp [Except.map]

theorem fill_eq_error_of_unfilled {before after : List Piece} {filled : List Char}
    {problem : HoleProblem} (done : fill arguments before = .ok filled)
    (unfilled : Unfilled arguments index problem) :
    fill arguments (before ++ .hole index :: after) = .error problem := by
  induction before generalizing filled with
  | nil =>
      cases unfilled with
      | missing absent => rw [List.nil_append, fill, absent]
      | tooLong given isLong =>
          rw [List.nil_append, fill, given]
          exact if_pos isLong
  | cons piece rest ih =>
      cases piece with
      | literal content =>
          rcases fill_literal_eq_ok_iff.mp done with ⟨others, doneRest, _⟩
          exact map_eq_error_iff.mpr (ih doneRest)
      | hole first =>
          rcases fill_hole_eq_ok_iff.mp done with ⟨argument, given, isShort, _, doneRest, _⟩
          rw [List.cons_append, fill, given]
          dsimp only
          rw [isShort, if_neg Bool.false_ne_true, map_eq_error_iff, ih doneRest]

theorem exists_unfilled {pieces : List Piece} {problem : HoleProblem}
    (failed : fill arguments pieces = .error problem) :
    ∃ before index after filled, pieces = before ++ .hole index :: after ∧
      fill arguments before = .ok filled ∧ Unfilled arguments index problem := by
  induction pieces with
  | nil => cases failed
  | cons piece rest ih =>
      cases piece with
      | literal content =>
          rcases ih (map_eq_error_iff.mp failed) with
            ⟨before, index, after, filled, rfl, done, unfilled⟩
          exact ⟨.literal content :: before, index, after, content :: filled, rfl,
            fill_literal_eq_ok_iff.mpr ⟨filled, done, rfl⟩, unfilled⟩
      | hole index =>
          rw [fill] at failed
          cases given : arguments[index - 1]? with
          | none =>
              rw [given] at failed
              cases failed
              exact ⟨[], index, rest, [], rfl, rfl, .missing given⟩
          | some argument =>
              rw [given] at failed
              dsimp only at failed
              split at failed
              · next isLong =>
                  cases failed
                  exact ⟨[], index, rest, [], rfl, rfl, .tooLong given isLong⟩
              · next isShort =>
                  rcases ih (map_eq_error_iff.mp failed) with
                    ⟨before, later, after, filled, rfl, done, unfilled⟩
                  have doneFirst := fill_hole_eq_ok_iff.mpr
                    ⟨argument, given, Bool.eq_false_of_not_eq_true isShort, filled, done, rfl⟩
                  exact ⟨.hole index :: before, later, after, _, rfl, doneFirst, unfilled⟩

/-- What fails to be filled fails at the first hole that is not filled, and for its reason. -/
theorem fill_eq_error_iff {pieces : List Piece} {problem : HoleProblem} :
    fill arguments pieces = .error problem ↔
      ∃ before index after filled, pieces = before ++ .hole index :: after ∧
        fill arguments before = .ok filled ∧ Unfilled arguments index problem := by
  refine ⟨exists_unfilled, ?_⟩
  rintro ⟨before, index, after, filled, rfl, done, unfilled⟩
  exact fill_eq_error_of_unfilled done unfilled

/-- A text that arguments apart take places in ends apart if its template does. -/
theorem endsApart_of_fill
    (apart : ∀ argument ∈ arguments, EndsApart (argumentText argument).toList)
    (template : Template escaped text) (ends : EndsApart text) {filled : List Char}
    (done : fill arguments (ofText escaped text) = .ok filled) : EndsApart filled := by
  induction template generalizing filled with
  | nil =>
      cases done
      exact ends
  | @literal escaped char rest noSign others ih =>
      rw [ofText_literal noSign] at done
      rcases fill_literal_eq_ok_iff.mp done with ⟨filledRest, doneRest, rfl⟩
      rcases endsApart_cons_iff.mp ends with ⟨endsRest, lastApart⟩
      refine endsApart_cons_iff.mpr ⟨ih endsRest doneRest, ?_⟩
      rintro rfl
      refine ⟨?_, noSign⟩
      rintro rfl
      -- behind a backslash no hole begins that could be filled with nothing, so the backslash is
      -- the last character
      cases others with
      | nil => exact (lastApart rfl).1 rfl
      | literal noSignNext others =>
          rw [ofText_literal noSignNext] at doneRest
          rcases fill_literal_eq_ok_iff.mp doneRest with ⟨_, _, never⟩
          cases never
  | @hole digit index rest isHole others ih =>
      rw [ofText_hole isHole] at done
      rcases fill_hole_eq_ok_iff.mp done with ⟨argument, found, _, filledRest, doneRest, rfl⟩
      have endsRest := (endsApart_cons_iff.mp (endsApart_cons_iff.mp ends).1).1
      exact (apart argument (List.mem_of_getElem? found)).append (ih endsRest doneRest)

end Piece

section Filling

variable {name : Scalar} {arguments : List Value}

theorem fillText_eq_ok_iff {text filled : String} :
    fillText name arguments text = .ok filled ↔
      Piece.fill arguments (Piece.ofText false text.toList) = .ok filled.toList := by
  unfold fillText
  rcases Piece.fill arguments (Piece.ofText false text.toList) with index | content
  · simp
  · simp only [Except.ok.injEq]
    constructor
    · rintro rfl
      exact String.toList_ofList.symm
    · rintro rfl
      exact String.ofList_toList

end Filling

/-! ## Covered holes -/

/-- Every hole of a text has its argument among so many. -/
def CoveredBy (count : Nat) (text : String) : Prop :=
  ∀ index, .hole index ∈ Piece.ofText false text.toList → index ≤ count

namespace Piece

/-- Whether a part needs no more than so many arguments. -/
def isWithin (count : Nat) : Piece → Bool
  | .literal _ => true
  | .hole index => index ≤ count

theorem all_isWithin_iff {count : Nat} {pieces : List Piece} :
    pieces.all (isWithin count) ↔ ∀ index, .hole index ∈ pieces → index ≤ count := by
  rw [List.all_eq_true]
  constructor
  · exact fun within index hole_mem => of_decide_eq_true (within _ hole_mem)
  · intro covered piece piece_mem
    cases piece with
    | literal content => rfl
    | hole index => exact decide_eq_true (covered index piece_mem)

theorem holeIndex?_pos {digit : Char} {index : Nat} (isHole : holeIndex? digit = some index) :
    0 < index := by
  unfold holeIndex? at isHole
  split at isHole
  · next inRange =>
      have atLeast : '1'.toNat ≤ digit.toNat := inRange.1
      have isIndex := Option.some.inj isHole
      have zero : '0'.toNat = 48 := rfl
      have one : '1'.toNat = 49 := rfl
      omega
  · cases isHole

theorem pos_of_hole_mem {escaped : Bool} {text : List Char} {index : Nat}
    (hole_mem : .hole index ∈ ofText escaped text) :
    0 < index := by
  fun_induction ofText escaped text with
  | case1 => cases hole_mem
  | case2 => simp at hole_mem
  | case3 digit rest found isHole ih =>
      rcases List.mem_cons.mp hole_mem with isFirst | later
      · cases isFirst
        exact holeIndex?_pos isHole
      · exact ih later
  | case4 escaped digit rest noHole ih => exact ih (by simpa using hole_mem)
  | case5 escaped char rest notLast notBefore ih => exact ih (by simpa using hole_mem)

/-- Holes with arguments that can be written are filled. -/
theorem exists_fill {arguments : List Value} {pieces : List Piece}
    (short : ∀ argument ∈ arguments, argument.hasLongInteger = false)
    (covered : ∀ index, .hole index ∈ pieces → index - 1 < arguments.length) :
    ∃ filled, fill arguments pieces = .ok filled := by
  cases done : fill arguments pieces with
  | ok filled => exact ⟨filled, rfl⟩
  | error problem =>
      rcases fill_eq_error_iff.mp done with ⟨before, index, after, _, rfl, _, unfilled⟩
      have inRange := covered index (by simp)
      cases unfilled with
      | missing absent => exact absurd (List.getElem?_eq_none_iff.mp absent) (by omega)
      | tooLong given isLong =>
          rw [short _ (List.mem_of_getElem? given)] at isLong
          cases isLong

end Piece

instance (count : Nat) (text : String) : Decidable (CoveredBy count text) :=
  decidable_of_iff _ Piece.all_isWithin_iff

section Covered

variable {arguments : List Value} {text : String}

theorem exists_fillText (name : Scalar)
    (short : ∀ argument ∈ arguments, argument.hasLongInteger = false)
    (covered : CoveredBy arguments.length text) :
    ∃ filled, fillText name arguments text = .ok filled := by
  have inRange : ∀ index, .hole index ∈ Piece.ofText false text.toList →
      index - 1 < arguments.length := by
    intro index hole_mem
    have pos := Piece.pos_of_hole_mem hole_mem
    have atMost := covered index hole_mem
    omega
  rcases Piece.exists_fill short inRange with ⟨filled, done⟩
  exact ⟨String.ofList filled, fillText_eq_ok_iff.mpr (by rw [done, String.toList_ofList])⟩

end Covered

end ReleaseWatch
