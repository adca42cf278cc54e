import ReleaseWatch.Proofs.Entry.Element

/-!
# What is taken for a wrapper

A text is taken out of its element only if it begins with an opening element and ends with a
closing one. Where both of them begin and end is settled by the text: the name of the first one is
the run of name characters behind the first bracket, and no bracket opens behind the one of the
last. The body is taken out if the name of the closing element is a start of that run. So a text
whose closing element has a name of its own is left whole; but a closing element with the name cut
short is taken for that of the opening one, and the rest of the run for attributes.
-/

namespace ReleaseWatch

/-! ## Names -/

theorem not_isElementChar_of_isBlank {char : Char} (blank : isBlank char) :
    isElementChar char = false := by
  have noWord : ∀ code ∈ blankCodes, isWordCode code = false ∧ code ≠ ':'.toNat ∧
      code ≠ '-'.toNat := by decide +kernel
  rcases noWord char.toNat (mem_blankCodes_of_isBlankCode blank) with
    ⟨notWord, notColon, notHyphen⟩
  have isColon : (char == ':') = false :=
    beq_false_of_ne fun same => notColon (congrArg Char.toNat same)
  have isHyphen : (char == '-') = false :=
    beq_false_of_ne fun same => notHyphen (congrArg Char.toNat same)
  simp [isElementChar, isWordChar, notWord, isColon, isHyphen]

theorem mem_namesWithin_iff {run name : List Char} :
    name ∈ namesWithin run ↔ name ≠ [] ∧ name <+: run := by
  simp only [namesWithin, List.mem_map, List.mem_reverse, List.mem_range]
  constructor
  · rintro ⟨count, inRun, rfl⟩
    refine ⟨?_, List.take_prefix _ _⟩
    rw [ne_eq, List.take_eq_nil_iff]
    rintro (none | empty)
    · omega
    · simp [empty] at inRun
  · rintro ⟨nonempty, isPrefix⟩
    have positive := List.length_pos_iff.mpr nonempty
    have atMost := isPrefix.length_le
    refine ⟨name.length - 1, by omega, ?_⟩
    rw [Nat.sub_add_cancel positive]
    exact (List.prefix_iff_eq_take.mp isPrefix).symm

theorem not_bracket_of_isElementRun {name : List Char} (run : name.all isElementChar) :
    '<' ∉ name :=
  bracket_not_mem_of_all (by decide) run

theorem isElementRun_of_mem_namesWithin {run name : List Char} (run_all : run.all isElementChar)
    (name_mem : name ∈ namesWithin run) : name.all isElementChar :=
  List.all_eq_true.mpr fun char char_mem =>
    List.all_eq_true.mp run_all char ((mem_namesWithin_iff.mp name_mem).2.subset char_mem)

/-! ## The closing element of a text -/

section Closing

variable {name other body before closing ending : List Char}

/-- Only one closing element ends a text, since no bracket opens behind its own. -/
theorem eq_of_append_closing (plain : '<' ∉ name) (plainOther : '<' ∉ other)
    (closes : isClosingElement name closing)
    (closesOther : isClosingElement other ending) (same : body ++ closing = before ++ ending) :
    body = before ∧ closing = ending := by
  rcases exists_of_isClosingElement closes with ⟨rest, rfl⟩
  rcases exists_of_isClosingElement closesOther with ⟨later, rfl⟩
  rcases List.append_eq_append_iff.mp same with
    ⟨between, before_eq, closing_eq⟩ | ⟨between, body_eq, ending_eq⟩
  · cases between with
    | nil => exact ⟨by rw [before_eq, List.append_nil], closing_eq⟩
    | cons char between =>
        have notLater := bracket_not_mem_of_isClosingElement plain closes
        rw [(List.cons.inj closing_eq).2] at notLater
        simp at notLater
  · cases between with
    | nil => exact ⟨by rw [body_eq, List.append_nil], ending_eq.symm⟩
    | cons char between =>
        have notLater := bracket_not_mem_of_isClosingElement plainOther closesOther
        rw [(List.cons.inj ending_eq).2] at notLater
        simp at notLater

/-- The name of a closing element is the run of name characters behind its bracket. -/
theorem name_eq_of_isClosingElement (run : name.all isElementChar)
    (closes : isClosingElement name closing) :
    name = (closing.drop 2).takeWhile isElementChar := by
  rcases isClosingElement_iff.mp closes with ⟨gap, after, rfl, gap_blank, _⟩
  have ends : ∀ next ∈ (gap ++ '>' :: after).head?, isElementChar next = false := by
    apply head?_append_of_forall
    · intro char char_mem
      exact not_isElementChar_of_isBlank (List.all_eq_true.mp gap_blank char char_mem)
    · rintro next ⟨rfl⟩
      decide
  exact (takeWhile_append_of_ends (List.all_eq_true.mp run) ends).symm

end Closing

/-! ## Texts between an opening and a closing element -/

/-- A body between an opening element and a closing one, each with a name of its own. -/
structure Wrapping where
  name : List Char
  attributes : List Char
  body : List Char
  closingName : List Char
  gap : List Char
  name_run : name.all isElementChar
  attributes_open : '>' ∉ attributes
  attributes_apart : attributes.head?.all fun first => !isElementChar first
  closingName_run : closingName.all isElementChar
  gap_blank : gap.all isBlank

namespace Wrapping

def closing (wrapping : Wrapping) : List Char :=
  '<' :: '/' :: (wrapping.closingName ++ (wrapping.gap ++ ['>']))

def text (wrapping : Wrapping) : List Char :=
  '<' :: (wrapping.name ++ (wrapping.attributes ++ '>' :: (wrapping.body ++ wrapping.closing)))

/-- The name of the closing element is a start of the name of the opening one, and there is one. -/
def Closes (wrapping : Wrapping) : Prop :=
  wrapping.closingName ≠ [] ∧ wrapping.closingName <+: wrapping.name

/-- A text is wrapped in this way if nothing else but white space is around it. -/
def Encloses (wrapping : Wrapping) (text : String) : Prop :=
  trim text.toList = wrapping.text

instance (wrapping : Wrapping) : Decidable wrapping.Closes :=
  inferInstanceAs (Decidable (_ ∧ _))

instance (wrapping : Wrapping) (text : String) : Decidable (wrapping.Encloses text) :=
  inferInstanceAs (Decidable (_ = _))

variable {wrapping other : Wrapping} {text : String}

theorem isClosingElement_closing (wrapping : Wrapping) {after : List Char}
    (after_blank : after.all isBlank) :
    isClosingElement wrapping.closingName (wrapping.closing ++ after) := by
  refine isClosingElement_iff.mpr ⟨wrapping.gap, after, ?_, wrapping.gap_blank, after_blank⟩
  simp [closing]

/--
The opening element of a wrapped text is read, and
what is left is the body with the closing element.
-/
theorem exists_openingElement?_eq (encloses : wrapping.Encloses text) :
    ∃ after, after.all isBlank ∧ openingElement? (text.toList.dropWhile isBlank) =
      some (wrapping.name, wrapping.body ++ (wrapping.closing ++ after)) := by
  rcases exists_append_trimEnd (text.toList.dropWhile isBlank) with ⟨after, after_blank, split⟩
  refine ⟨after, after_blank,
    openingElement?_eq_some_iff.mpr ⟨wrapping.attributes, ?_, wrapping.name_run,
    wrapping.attributes_open, wrapping.attributes_apart⟩⟩
  have trimmed : trimEnd (text.toList.dropWhile isBlank) = wrapping.text := encloses
  rw [split, trimmed]
  simp [Wrapping.text]

/-- The names of the two elements are settled by the text. -/
theorem names_eq_of_encloses (encloses : wrapping.Encloses text)
    (enclosesToo : other.Encloses text) :
    wrapping.name = other.name ∧ wrapping.closingName = other.closingName := by
  rcases exists_openingElement?_eq encloses with ⟨after, after_blank, opens⟩
  rcases exists_openingElement?_eq enclosesToo with ⟨later, later_blank, opensToo⟩
  have same := opens.symm.trans opensToo
  simp only [Option.some.injEq, Prod.mk.injEq] at same
  have closes := wrapping.isClosingElement_closing after_blank
  have closesToo := other.isClosingElement_closing later_blank
  have closing_eq := (eq_of_append_closing (not_bracket_of_isElementRun wrapping.closingName_run)
    (not_bracket_of_isElementRun other.closingName_run) closes closesToo same.2).2
  refine ⟨same.1, ?_⟩
  rw [name_eq_of_isClosingElement wrapping.closingName_run closes, closing_eq,
    ← name_eq_of_isClosingElement other.closingName_run closesToo]

/--
Whatever name a body is found by is that of the
closing element, and so the body is the one before it.
-/
theorem closes_of_bodyBefore? {after name found : List Char} (after_blank : after.all isBlank)
    (name_mem : name ∈ namesWithin wrapping.name)
    (isFound : bodyBefore? name (wrapping.body ++ (wrapping.closing ++ after)) = some found) :
    wrapping.Closes ∧ found = wrapping.body := by
  have closes := wrapping.isClosingElement_closing after_blank
  have plain := not_bracket_of_isElementRun wrapping.closingName_run
  have run := isElementRun_of_mem_namesWithin wrapping.name_run name_mem
  have plainName := not_bracket_of_isElementRun run
  rcases (bodyBefore?_eq_some_iff plainName).mp isFound with ⟨ending, same, closesThere⟩
  rcases eq_of_append_closing plain plainName closes closesThere same with ⟨body_eq, rfl⟩
  have name_eq := (name_eq_of_isClosingElement run closesThere).trans
    (name_eq_of_isClosingElement wrapping.closingName_run closes).symm
  subst name_eq
  exact ⟨mem_namesWithin_iff.mp name_mem, body_eq.symm⟩

/--
What is taken out of a wrapped text is its body, if the closing element closes the opening one.
-/
theorem enclosed?_eq_some_iff (encloses : wrapping.Encloses text) {inner : List Char} :
    enclosed? text.toList = some inner ↔ wrapping.Closes ∧ inner = wrapping.body := by
  rcases exists_openingElement?_eq encloses with ⟨after, after_blank, opens⟩
  simp only [enclosed?, opens]
  constructor
  · intro found
    rcases List.exists_of_findSome?_eq_some found with ⟨name, name_mem, isFound⟩
    exact closes_of_bodyBefore? after_blank name_mem isFound
  · rintro ⟨closesOpening, rfl⟩
    have plain := not_bracket_of_isElementRun wrapping.closingName_run
    have isFound : bodyBefore? wrapping.closingName (wrapping.body ++ (wrapping.closing ++ after)) =
        some wrapping.body :=
      (bodyBefore?_eq_some_iff plain).mpr
        ⟨_, rfl, wrapping.isClosingElement_closing after_blank⟩
    cases found : (namesWithin wrapping.name).findSome? fun name =>
        bodyBefore? name (wrapping.body ++ (wrapping.closing ++ after)) with
    | none =>
        have missed := List.findSome?_eq_none_iff.mp found _ (mem_namesWithin_iff.mpr closesOpening)
        rw [isFound] at missed
        cases missed
    | some other =>
        rcases List.exists_of_findSome?_eq_some found with ⟨name, name_mem, foundThere⟩
        rw [(closes_of_bodyBefore? after_blank name_mem foundThere).2]

theorem unwrap_of_closes (encloses : wrapping.Encloses text) (closes : wrapping.Closes) :
    unwrap text = String.ofList (trim wrapping.body) := by
  rw [unwrap, (enclosed?_eq_some_iff encloses).mpr ⟨closes, rfl⟩]

theorem unwrap_of_not_closes (encloses : wrapping.Encloses text) (unclosed : ¬wrapping.Closes) :
    unwrap text = String.ofList (trim text.toList) := by
  have nothing : enclosed? text.toList = none := by
    rw [Option.eq_none_iff_forall_ne_some]
    intro inner found
    exact unclosed ((enclosed?_eq_some_iff encloses).mp found).1
  rw [unwrap, nothing]

/-- A body is shorter than the text around it. -/
theorem unwrap_ne_of_closes (encloses : wrapping.Encloses text) (closes : wrapping.Closes) :
    unwrap text ≠ String.ofList (trim text.toList) := by
  rw [unwrap_of_closes encloses closes, encloses, ne_eq, String.ofList_inj]
  intro same
  have shorter := length_trim_le wrapping.body
  rw [same] at shorter
  simp only [Wrapping.text, List.length_cons, List.length_append] at shorter
  omega

end Wrapping

/-- Nothing is taken out of a text that is not wrapped. -/
theorem exists_encloses_of_enclosed? {text : String} {inner : List Char}
    (found : enclosed? text.toList = some inner) :
    ∃ wrapping : Wrapping, wrapping.Encloses text ∧ wrapping.Closes := by
  unfold enclosed? at found
  split at found
  · cases found
  · next run rest opens =>
      rcases openingElement?_eq_some_iff.mp opens with
        ⟨attributes, text_eq, run_all, isOpen, apart⟩
      rcases List.exists_of_findSome?_eq_some found with ⟨name, name_mem, isFound⟩
      rcases mem_namesWithin_iff.mp name_mem with ⟨nonempty, isPrefix⟩
      have name_run := isElementRun_of_mem_namesWithin run_all name_mem
      rcases (bodyBefore?_eq_some_iff (not_bracket_of_isElementRun name_run)).mp isFound with
        ⟨closing, rfl, closes⟩
      rcases isClosingElement_iff.mp closes with ⟨gap, after, rfl, gap_blank, after_blank⟩
      let wrapping : Wrapping :=
        { name := run, attributes, body := inner, closingName := name, gap, name_run := run_all,
          attributes_open := isOpen, attributes_apart := apart, closingName_run := name_run,
          gap_blank }
      refine ⟨wrapping, ?_, nonempty, isPrefix⟩
      have split : text.toList.dropWhile isBlank = wrapping.text ++ after := by
        rw [text_eq]
        simp [wrapping, Wrapping.text, Wrapping.closing]
      have visible : ∀ last ∈ wrapping.text.getLast?, isBlank last = false := by
        intro last isLast
        have last_eq : wrapping.text.getLast? = some '>' := by
          simp [Wrapping.text, Wrapping.closing, List.getLast?_cons]
        rw [last_eq] at isLast
        cases isLast
        decide
      rw [Wrapping.Encloses, trim, split, trimEnd_append visible, trimEnd_of_blank after_blank,
        List.append_nil]

/--
A text is taken out of something if it begins with an opening element and ends with a closing one
whose name is a start of the name of the first, and only then. It is its body then, and otherwise
the text is left whole. So the two names are one unless the closing element has that of the
opening one cut short.
-/
theorem only_wrappings_are_removed (text : String) :
    (unwrap text ≠ String.ofList (trim text.toList) ↔
      ∃ wrapping : Wrapping, wrapping.Encloses text ∧ wrapping.Closes) ∧
    ∀ wrapping : Wrapping, wrapping.Encloses text →
      (wrapping.Closes → unwrap text = String.ofList (trim wrapping.body)) ∧
      (¬wrapping.Closes → unwrap text = String.ofList (trim text.toList)) ∧
      ((wrapping.Closes → wrapping.closingName = wrapping.name) →
        (unwrap text ≠ String.ofList (trim text.toList) ↔
          wrapping.name ≠ [] ∧ wrapping.closingName = wrapping.name)) := by
  refine ⟨⟨?removed, ?closes⟩, fun wrapping encloses =>
    ⟨wrapping.unwrap_of_closes encloses, wrapping.unwrap_of_not_closes encloses, ?whole⟩⟩
  case removed =>
    intro removed
    cases found : enclosed? text.toList with
    | none => exact absurd (by rw [unwrap, found]) removed
    | some inner => exact exists_encloses_of_enclosed? found
  case closes =>
    rintro ⟨wrapping, encloses, closes⟩
    exact wrapping.unwrap_ne_of_closes encloses closes
  case whole =>
    intro notCut
    constructor
    · intro removed
      by_cases closes : wrapping.Closes
      · have same := notCut closes
        exact ⟨same ▸ closes.1, same⟩
      · exact absurd (wrapping.unwrap_of_not_closes encloses closes) removed
    · rintro ⟨nonempty, same⟩
      have closes : wrapping.Closes := ⟨same ▸ nonempty, by rw [same]⟩
      exact wrapping.unwrap_ne_of_closes encloses closes

namespace NameCutShort

/--
A category in an element whose closing part has a name
that the opening one begins with, or another name.
-/
def wrapping (closingName : List Char) (closingName_run : closingName.all isElementChar) :
    Wrapping where
  name := "tv:category".toList
  attributes := " id=1".toList
  body := " Anime".toList
  closingName
  gap := ['\t']
  name_run := by decide
  attributes_open := by decide
  attributes_apart := by decide
  closingName_run
  gap_blank := by decide

def cut : Wrapping :=
  wrapping "tv".toList (by decide)

def text : String :=
  "<tv:category id=1> Anime</tv\t>"

theorem encloses_text : cut.Encloses text := by decide

theorem only_wrappings_are_removed_of_cut :
    cut.Encloses text ∧ cut.Closes ∧ unwrap text = "Anime" ∧
    (wrapping "title".toList (by decide)).Encloses "<tv:category id=1> Anime</title\t>" ∧
    unwrap "<tv:category id=1> Anime</title\t>" = "<tv:category id=1> Anime</title\t>" := by
  have closes : cut.Closes := by decide
  have removed := ((only_wrappings_are_removed text).2 cut encloses_text).1 closes
  let other := wrapping "title".toList (by decide)
  have encloses : other.Encloses "<tv:category id=1> Anime</title\t>" := by decide
  have unclosed : ¬other.Closes := by decide
  have whole := ((only_wrappings_are_removed _).2 other encloses).2.1 unclosed
  exact ⟨encloses_text, closes, removed, encloses, whole⟩

/-- Something is taken out of the text, though there is no closing element of the whole name. -/
theorem removes_without_whole_name :
    unwrap text ≠ String.ofList (trim text.toList) ∧
    ¬∃ other : Wrapping, other.Encloses text ∧ other.closingName = other.name := by
  refine ⟨by decide, ?_⟩
  rintro ⟨other, encloses, same⟩
  rcases Wrapping.names_eq_of_encloses encloses_text encloses with ⟨name_eq, closingName_eq⟩
  have differ : cut.closingName ≠ cut.name := by decide
  exact differ (closingName_eq.trans (same.trans name_eq.symm))

end NameCutShort

end ReleaseWatch
