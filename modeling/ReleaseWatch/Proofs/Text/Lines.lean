/-!
# Lines and the breaks between them

A list file is written line by line, each with a break behind it, and read again by splitting it
at the breaks. The last piece is what stands behind the last break, and nothing does. A line that
has breaks of its own comes apart when it is read; all others are read as they were written.
-/

namespace ReleaseWatch

/-- The pieces of a text before, between and behind its line breaks. -/
def pieces (text : String) : List String :=
  (text.toList.splitOn '\n').map String.ofList

/-- Lines after each other, each with a break behind it. -/
def framed : List String → String
  | [] => ""
  | line :: rest => line ++ "\n" ++ framed rest

theorem framed_append (first second : List String) :
    framed (first ++ second) = framed first ++ framed second := by
  induction first with
  | nil => exact String.empty_append.symm
  | cons line rest ih =>
      rw [List.cons_append, framed, framed, ih]
      exact String.append_assoc.symm

theorem pieces_append_break (line rest : String) :
    pieces (line ++ "\n" ++ rest) = pieces line ++ pieces rest := by
  have broken : (line ++ "\n" ++ rest).toList = line.toList ++ '\n' :: rest.toList := by simp
  rw [pieces, broken, List.splitOn_append_cons_self, List.map_append]
  rfl

/-- What is read from lines are the pieces of each. -/
theorem pieces_framed (lines : List String) :
    pieces (framed lines) = lines.flatMap pieces ++ [""] := by
  induction lines with
  | nil => rfl
  | cons line rest ih => rw [framed, pieces_append_break, ih, List.flatMap_cons, List.append_assoc]

theorem pieces_of_no_break {line : String} (noBreak : '\n' ∉ line.toList) :
    pieces line = [line] := by
  rw [pieces, List.splitOn_eq_singleton noBreak, List.map_singleton, String.ofList_toList]

theorem break_not_mem_of_mem_splitOn {text piece : List Char}
    (piece_mem : piece ∈ text.splitOn '\n') : '\n' ∉ piece := by
  induction text generalizing piece with
  | nil =>
      rw [List.splitOn_nil, List.mem_singleton] at piece_mem
      simp [piece_mem]
  | cons char rest ih =>
      rw [List.splitOn_cons_eq_if_modifyHead] at piece_mem
      by_cases isBreak : char = '\n'
      · rw [if_pos (by simp [isBreak])] at piece_mem
        rcases List.mem_cons.mp piece_mem with rfl | later
        · simp
        · exact ih later
      · rw [if_neg (by simp [isBreak])] at piece_mem
        cases split : rest.splitOn '\n' with
        | nil => exact absurd split (List.splitOn_ne_nil _ _)
        | cons first others =>
            rw [split] at ih piece_mem
            rw [List.modifyHead_cons] at piece_mem
            rcases List.mem_cons.mp piece_mem with rfl | later
            · simp [Ne.symm isBreak, ih List.mem_cons_self]
            · exact ih (List.mem_cons_of_mem _ later)

theorem break_not_mem_of_mem_pieces {text piece : String} (piece_mem : piece ∈ pieces text) :
    '\n' ∉ piece.toList := by
  rcases List.mem_map.mp piece_mem with ⟨chars, chars_mem, rfl⟩
  rw [String.toList_ofList]
  exact break_not_mem_of_mem_splitOn chars_mem

/-- Lines are read as they were written exactly if none of them has a break. -/
theorem pieces_framed_eq_iff (lines : List String) :
    pieces (framed lines) = lines ++ [""] ↔ ∀ line ∈ lines, '\n' ∉ line.toList := by
  constructor
  · intro same line line_mem
    have isPiece : line ∈ pieces (framed lines) := by
      rw [same]
      exact List.mem_append_left _ line_mem
    exact break_not_mem_of_mem_pieces isPiece
  · intro noBreak
    have alone : lines.flatMap pieces = lines := by
      rw [List.flatMap_def, List.map_congr_left fun line line_mem =>
        pieces_of_no_break (noBreak line line_mem)]
      exact List.flatMap_singleton' lines
    rw [pieces_framed, alone]

end ReleaseWatch
