import Mathlib.Data.List.Infix
import ReleaseWatch.Text.Search

/-!
# What a search passes over

A reader that looks for a label reads nothing where no label begins, so a search for it
passes over such a text. Whether a label begins in a text depends on what follows as well,
since it may straddle the border. It does not if what follows starts with a character that
the label has nowhere behind its start, nor if the label clashes with every end of the text,
which can be computed.
-/

namespace ReleaseWatch

/-- A label begins at no place of a text, given what follows the text. -/
def Avoids (label : List Char) : (text rest : List Char) → Prop
  | [], _ => True
  | char :: text, rest => ¬label <+: char :: (text ++ rest) ∧ Avoids label text rest

/-- Whether a label differs from every end of a text before either of the two is over. -/
def clashes (label : List Char) : List Char → Bool
  | [] => true
  | char :: text =>
      !label.isPrefixOf (char :: text) && !(char :: text).isPrefixOf label && clashes label text

section Label

variable {label text first second rest : List Char}

theorem avoids_append :
    Avoids label (first ++ second) rest ↔ Avoids label first (second ++ rest) ∧
    Avoids label second rest := by
  induction first with
  | nil => simp [Avoids]
  | cons char first ih => simp [Avoids, ih, and_assoc]

/--
A label that begins in a text and has the next character
nowhere behind its start ends in the text as well.
-/
theorem isPrefix_of_isPrefix_append {char : Char} (begins : label <+: char :: (text ++ rest))
    (border : ∀ next ∈ rest.head?, next ∉ label.tail) : label <+: char :: text := by
  rcases List.prefix_or_prefix_of_prefix begins (List.prefix_append (char :: text) rest) with
    within | ⟨behind, rfl⟩
  · exact within
  · have beyond : behind <+: rest := (List.prefix_append_right_inj (char :: text)).mp begins
    cases behind with
    | nil => simp
    | cons next behind =>
        rcases beyond with ⟨others, rfl⟩
        exact absurd (by simp) (border next rfl)

theorem avoids_of_not_infix (absent : ¬label <:+: text)
    (border : ∀ next ∈ rest.head?, next ∉ label.tail) : Avoids label text rest := by
  induction text with
  | nil => trivial
  | cons char text ih =>
      constructor
      · intro begins
        exact absent (isPrefix_of_isPrefix_append begins border).isInfix
      · exact ih fun inRest => absent (inRest.trans (List.suffix_cons char text).isInfix)

theorem avoids_of_clashes (clash : clashes label text) (rest : List Char) :
    Avoids label text rest := by
  induction text with
  | nil => trivial
  | cons char text ih =>
      simp only [clashes, Bool.and_eq_true, Bool.not_eq_true', Bool.eq_false_iff, ne_eq,
        List.isPrefixOf_iff_prefix] at clash
      refine ⟨?_, ih clash.2⟩
      intro begins
      rcases List.prefix_or_prefix_of_prefix begins (List.prefix_append (char :: text) rest) with
        within | beyond
      · exact clash.1.1 within
      · exact clash.1.2 beyond

/--
A label begins nowhere in a text whose characters
pass a test that the first one of the label fails.
-/
theorem avoids_of_head? {test : Char → Bool} (passes : ∀ char ∈ text, test char)
    (fails : label.head?.any fun first => !test first) (rest : List Char) :
    Avoids label text rest := by
  induction text with
  | nil => trivial
  | cons char text ih =>
      refine ⟨?_, ih fun other other_mem => passes other (List.mem_cons_of_mem _ other_mem)⟩
      rintro ⟨behind, label_eq⟩
      cases label with
      | nil => cases fails
      | cons first label =>
          rcases List.cons.inj label_eq with ⟨rfl, -⟩
          simp [passes first List.mem_cons_self] at fails

end Label

section Search

variable {Found : Type} {reader : List Char → Option Found} {text rest : List Char}

theorem firstMatch?_of_read {found : Found} (read : reader text = some found) :
    firstMatch? reader text = some found := by
  cases text with
  | nil => exact read
  | cons char text => rw [firstMatch?, read]

/-- A search passes over a text in which no label begins that its reader could read. -/
theorem firstMatch?_append_of_avoids {labels : List Char → Prop}
    (needs : ∀ text found, reader text = some found → ∃ label, labels label ∧
      label <+: text)
    (avoids : ∀ label, labels label → Avoids label text rest) :
    firstMatch? reader (text ++ rest) = firstMatch? reader rest := by
  induction text with
  | nil => rfl
  | cons char text ih =>
      have unread : reader (char :: (text ++ rest)) = none := by
        rw [Option.eq_none_iff_forall_ne_some]
        intro found read
        rcases needs _ found read with ⟨label, isLabel, begins⟩
        exact (avoids label isLabel).1 begins
      rw [List.cons_append, firstMatch?, unread]
      exact ih fun label isLabel => (avoids label isLabel).2

/-- A reader reads nothing unless the label stands at the start of the text. -/
def Needs (reader : List Char → Option Found) (label : List Char) : Prop :=
  ∀ text found, reader text = some found → label <+: text

variable {label : List Char}

theorem isPrefixOf?_append (label rest : List Char) :
    label.isPrefixOf? (label ++ rest) = some rest :=
  List.isPrefixOf?_eq_some_iff_append_eq.mpr rfl

theorem needs_of_isPrefixOf?
    (unread : ∀ text, label.isPrefixOf? text = none → reader text = none) :
    Needs reader label := by
  intro text found read
  cases prefix_eq : label.isPrefixOf? text with
  | none => simp [unread text prefix_eq] at read
  | some rest => exact ⟨rest, List.isPrefixOf?_eq_some_iff_append_eq.mp prefix_eq⟩

theorem Needs.mono {shorter : List Char} (needs : Needs reader label)
    (isStart : shorter <+: label) :
    Needs reader shorter :=
  fun text found read => isStart.trans (needs text found read)

theorem Needs.firstMatch?_append (needs : Needs reader label) (avoids : Avoids label text rest) :
    firstMatch? reader (text ++ rest) = firstMatch? reader rest := by
  have starts : ∀ text found, reader text = some found → ∃ other, other = label ∧
      other <+: text :=
    fun text found read => ⟨label, rfl, needs text found read⟩
  apply firstMatch?_append_of_avoids starts
  rintro _ rfl
  exact avoids

/-- A search for a label that begins nowhere finds nothing. -/
theorem Needs.firstMatch?_eq_none (needs : Needs reader label) (nonempty : label ≠ [])
    (avoids : Avoids label text []) :
    firstMatch? reader text = none := by
  have passed := needs.firstMatch?_append avoids
  rw [List.append_nil] at passed
  rw [passed, firstMatch?, Option.eq_none_iff_forall_ne_some]
  intro found read
  exact nonempty (List.prefix_nil.mp (needs [] found read))

end Search

end ReleaseWatch
