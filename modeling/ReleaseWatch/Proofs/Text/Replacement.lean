import ReleaseWatch.Proofs.Text.Label
import ReleaseWatch.Text.Search

/-!
# Replacing a label

What is put in the place of a label is not looked at again, so a label could stand in the result:
in what was put, or across a border between that and what was kept. It does neither if the
replacement differs from the label before one of the two is over, and begins with a character that
the label has nowhere behind its start. Then one replacement leaves nothing to a second one.
-/

namespace ReleaseWatch

/-- What is put in the place of another text brings its own characters only. -/
theorem mem_of_mem_replaceAll {old new text : List Char} {char : Char}
    (char_mem : char ∈ replaceAll old new text) :
    char ∈ new ∨ char ∈ text := by
  fun_induction replaceAll old new text with
  | case1 => exact Or.inr char_mem
  | case2 first rest isOld ih =>
      rcases List.mem_append.mp char_mem with isNew | later
      · exact Or.inl isNew
      · exact (ih later).imp_right fun inRest =>
          List.mem_cons_of_mem _ (List.mem_of_mem_drop inRest)
  | case3 first rest notOld ih =>
      rcases List.mem_cons.mp char_mem with rfl | later
      · exact Or.inr List.mem_cons_self
      · exact (ih later).imp_right (List.mem_cons_of_mem _)

section Replacement

variable {old new text : List Char}

theorem avoids_iff_absent (nonempty : old ≠ []) : Avoids old text [] ↔ ¬old <:+: text := by
  refine ⟨?_, fun absent => avoids_of_not_infix absent (by simp)⟩
  induction text with
  | nil => exact fun _ isInfix => nonempty (List.infix_nil.mp isInfix)
  | cons char text ih =>
      rw [Avoids, List.append_nil, List.infix_cons_iff, not_or]
      exact fun avoids => ⟨avoids.1, ih avoids.2⟩

/-- A label that begins nowhere in a text is passed over there. -/
theorem replaceAll_append {rest : List Char} (avoids : Avoids old text rest) :
    replaceAll old new (text ++ rest) = text ++ replaceAll old new rest := by
  induction text with
  | nil => rfl
  | cons char text ih =>
      rw [List.cons_append, replaceAll, if_neg (by simpa using avoids.1), ih avoids.2,
        List.cons_append]

theorem replaceAll_eq_self (nonempty : old ≠ []) (absent : ¬old <:+: text) :
    replaceAll old new text = text := by
  have passed : replaceAll old new (text ++ []) = text ++ replaceAll old new [] :=
    replaceAll_append ((avoids_iff_absent nonempty).mpr absent)
  rwa [List.append_nil, replaceAll, List.append_nil] at passed

theorem replaceAll_label_append (nonempty : old ≠ []) (rest : List Char) :
    replaceAll old new (old ++ rest) = new ++ replaceAll old new rest := by
  rcases List.exists_cons_of_ne_nil nonempty with ⟨first, others, rfl⟩
  rw [List.cons_append, replaceAll, if_pos (by simp)]
  simp

variable {first : Char} {others : List Char}

/--
A part of a label in which the replacement does not begin has its whole text from what was kept.
-/
theorem isPrefix_of_isPrefix_replaceAll {part : List Char} (border : first ∉ part)
    (begins : part <+: replaceAll old (first :: others) text) : part <+: text := by
  fun_induction replaceAll old (first :: others) text generalizing part with
  | case1 => exact begins
  | case2 char rest isOld ih =>
      cases part with
      | nil => exact List.nil_prefix
      | cons next part =>
          rw [List.cons_append, List.cons_prefix_cons] at begins
          exact absurd (begins.1 ▸ List.mem_cons_self) border
  | case3 char rest notOld ih =>
      cases part with
      | nil => exact List.nil_prefix
      | cons next part =>
          rw [List.cons_prefix_cons] at begins ⊢
          exact ⟨begins.1, ih (fun later => border (List.mem_cons_of_mem next later)) begins.2⟩

/-- No label is left, neither in what was put nor across a border between that and what was kept. -/
theorem avoids_replaceAll (clash : clashes old (first :: others)) (border : first ∉ old.tail)
    (text : List Char) :
    Avoids old (replaceAll old (first :: others) text) [] := by
  fun_induction replaceAll old (first :: others) text with
  | case1 => trivial
  | case2 char rest isOld ih => exact avoids_append.mpr ⟨avoids_of_clashes clash _, ih⟩
  | case3 char rest notOld ih =>
      refine ⟨?_, ih⟩
      rw [List.append_nil]
      rw [List.isPrefixOf_iff_prefix] at notOld
      intro begins
      cases old with
      | nil => exact notOld List.nil_prefix
      | cons start tail =>
          rw [List.cons_prefix_cons] at begins
          exact notOld
            (List.cons_prefix_cons.mpr
              ⟨begins.1, isPrefix_of_isPrefix_replaceAll border begins.2⟩)

end Replacement

end ReleaseWatch
