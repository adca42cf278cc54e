import ReleaseWatch.Proofs.Entry.Guid
import ReleaseWatch.Proofs.Outcome
import ReleaseWatch.Proofs.Text.Label
import ReleaseWatch.Proofs.Text.Runs

/-!
# Fields inside elements

A field may come inside the element that held it. Whatever the attributes and the body of the
element are, what is taken out of it is the body: the longest name is tried first, and an element
of that name is closed only by the last bracket of the text, so that closing elements within the
body are passed over. The number in a guid is then looked for in the body alone.
-/

namespace ReleaseWatch

/-! ## Elements -/

/-- A body between an opening and a closing element of one name, with white space around them. -/
structure Element where
  before : List Char
  name : List Char
  attributes : List Char
  body : List Char
  after : List Char
  before_blank : before.all isBlank
  name_nonempty : name ≠ []
  name_run : name.all isElementChar
  attributes_open : '>' ∉ attributes
  attributes_apart : attributes.head?.all fun first => !isElementChar first
  after_blank : after.all isBlank

/--
An opening element is the run of name characters behind
the bracket, and all up to the next closing bracket.
-/
theorem openingElement?_eq_some_iff {text run body : List Char} :
    openingElement? text = some (run, body) ↔
      ∃ attributes, text = '<' :: (run ++ (attributes ++ '>' :: body)) ∧
        run.all isElementChar ∧
        '>' ∉ attributes ∧ attributes.head?.all fun first => !isElementChar first := by
  constructor
  · intro opens
    unfold openingElement? at opens
    split at opens
    · next rest =>
        split at opens
        · next behind found =>
            cases opens
            refine ⟨(rest.dropWhile isElementChar).takeWhile (· != '>'), ?_, List.all_takeWhile,
              ?_, ?_⟩
            · rw [← found, List.takeWhile_append_dropWhile, List.takeWhile_append_dropWhile]
            · intro closes
              simpa using List.mem_takeWhile_imp closes
            · have apart := List.head?_dropWhile_not isElementChar rest
              cases behindRun : rest.dropWhile isElementChar with
              | nil => rfl
              | cons first others =>
                  rw [behindRun] at apart
                  rw [List.takeWhile_cons]
                  split
                  · simpa using apart
                  · rfl
        · cases opens
    · cases opens
  · rintro ⟨attributes, rfl, run_all, isOpen, apart⟩
    have attributes_run := bne_of_not_mem isOpen
    have attributes_end : ∀ next ∈ ('>' :: body).head?, (next != '>') = false := by
      rintro next ⟨rfl⟩
      rfl
    have run_all := List.all_eq_true.mp run_all
    have run_end : ∀ next ∈ (attributes ++ '>' :: body).head?, isElementChar next = false := by
      cases attributes with
      | nil =>
          rintro next ⟨rfl⟩
          decide
      | cons first others =>
          rintro next ⟨rfl⟩
          simpa using apart
    simp only [openingElement?, dropWhile_append_of_ends run_all run_end,
      takeWhile_append_of_ends run_all run_end,
      dropWhile_append_of_ends attributes_run attributes_end]

/-- A closing element has white space at most behind its name and behind its bracket. -/
theorem isClosingElement_iff {name text : List Char} :
    isClosingElement name text ↔
      ∃ gap after, text = '<' :: '/' :: (name ++ (gap ++ '>' :: after)) ∧ gap.all isBlank ∧
        after.all isBlank := by
  constructor
  · intro closes
    unfold isClosingElement at closes
    split at closes
    · next after isClosing =>
        rcases Option.map_eq_some_iff.mp isClosing with ⟨behind, isPrefix, dropped⟩
        refine ⟨behind.takeWhile isBlank, after, ?_, List.all_takeWhile, closes⟩
        rw [← dropped,
          List.takeWhile_append_dropWhile, ← List.isPrefixOf?_eq_some_iff_append_eq.mp isPrefix]
        rfl
    · cases closes
  · rintro ⟨gap, after, rfl, gap_blank, after_blank⟩
    have ends : ∀ next ∈ ('>' :: after).head?, isBlank next = false := by
      rintro next ⟨rfl⟩
      decide
    have closing_eq : '<' :: '/' :: (name ++ (gap ++ '>' :: after)) =
        ('<' :: '/' :: name) ++ (gap ++ '>' :: after) := rfl
    rw [isClosingElement, closing_eq, isPrefixOf?_append, Option.map_some,
      dropWhile_append_of_ends (List.all_eq_true.mp gap_blank) ends]
    exact after_blank

theorem bracket_not_mem_of_all {test : Char → Bool} {run : List Char} (fails : test '<' = false)
    (all : run.all test) :
    '<' ∉ run := by
  intro bracket
  rw [List.all_eq_true.mp all '<' bracket] at fails
  cases fails

/-- No bracket opens behind the one that opens a closing element. -/
theorem bracket_not_mem_of_isClosingElement {name rest : List Char} {char : Char}
    (plain : '<' ∉ name) (closes : isClosingElement name (char :: rest)) : '<' ∉ rest := by
  have visible : isBlank '<' = false := by decide
  rcases isClosingElement_iff.mp closes with ⟨gap, after, text_eq, gap_blank, after_blank⟩
  have notGap := bracket_not_mem_of_all visible gap_blank
  have notAfter := bracket_not_mem_of_all visible after_blank
  cases text_eq
  simp [plain, notGap, notAfter]

theorem exists_of_isClosingElement {name text : List Char} (closes : isClosingElement name text) :
    ∃ rest, text = '<' :: rest := by
  rcases isClosingElement_iff.mp closes with ⟨gap, after, text_eq, _, _⟩
  exact ⟨_, text_eq⟩

/--
The body ends where a closing element begins: no other
one begins earlier, since its bracket stands behind it.
-/
theorem bodyBefore?_eq_some_iff {name text body : List Char} (plain : '<' ∉ name) :
    bodyBefore? name text = some body ↔ ∃ closing, text = body ++ closing ∧
    isClosingElement name closing := by
  constructor
  · intro found
    induction text generalizing body with
    | nil => cases found
    | cons char rest ih =>
        rw [bodyBefore?] at found
        split at found
        · next closes =>
            cases found
            exact ⟨char :: rest, rfl, closes⟩
        · rcases Option.map_eq_some_iff.mp found with ⟨others, foundLater, rfl⟩
          rcases ih foundLater with ⟨closing, rfl, closes⟩
          exact ⟨closing, rfl, closes⟩
  · rintro ⟨closing, rfl, closes⟩
    rcases exists_of_isClosingElement closes with ⟨behind, rfl⟩
    induction body with
    | nil => rw [List.nil_append, bodyBefore?, if_pos closes]
    | cons char body ih =>
        have opensLater : '<' ∈ body ++ '<' :: behind :=
          List.mem_append_right body List.mem_cons_self
        have goesOn : ¬isClosingElement name (char :: (body ++ '<' :: behind)) := fun closesHere =>
          bracket_not_mem_of_isClosingElement plain closesHere opensLater
        rw [List.cons_append, bodyBefore?, if_neg goesOn, ih, Option.map_some]

/-- The whole run of name characters is the first name that is tried. -/
theorem exists_namesWithin_eq_cons {run : List Char} (nonempty : run ≠ []) :
    ∃ shorter, namesWithin run = run :: shorter := by
  rcases List.exists_cons_of_ne_nil nonempty with ⟨first, others, run_eq⟩
  have length_eq : run.length = others.length + 1 := by rw [run_eq, List.length_cons]
  refine ⟨(List.range others.length).reverse.map fun count => run.take (count + 1), ?_⟩
  rw [namesWithin, length_eq, List.range_succ, List.reverse_concat, List.map_cons, ← length_eq,
    List.take_length]

namespace Element

variable (element : Element)

/-- The closing element, with what stands behind it. -/
def closing : List Char :=
  '<' :: '/' :: (element.name ++ '>' :: element.after)

def text : String :=
  String.ofList (element.before ++ '<' ::
    (element.name ++ (element.attributes ++ '>' :: (element.body ++ element.closing))))

theorem bracket_not_mem_name : '<' ∉ element.name :=
  bracket_not_mem_of_all (by decide) element.name_run

theorem openingElement?_text (rest : List Char) :
    openingElement? ('<' :: (element.name ++ (element.attributes ++ '>' :: rest))) =
      some (element.name, rest) :=
  openingElement?_eq_some_iff.mpr ⟨element.attributes, rfl, element.name_run,
    element.attributes_open, element.attributes_apart⟩

theorem isClosingElement_closing : isClosingElement element.name element.closing :=
  isClosingElement_iff.mpr ⟨[], element.after, rfl, rfl, element.after_blank⟩

theorem bodyBefore?_closing (body : List Char) :
    bodyBefore? element.name (body ++ element.closing) = some body :=
  (bodyBefore?_eq_some_iff element.bracket_not_mem_name).mpr ⟨element.closing, rfl,
    element.isClosingElement_closing⟩

theorem enclosed?_text : enclosed? element.text.toList = some element.body := by
  have opened : ∀ next ∈
      ('<' :: (element.name ++
        (element.attributes ++ '>' :: (element.body ++ element.closing)))).head?,
      isBlank next = false := by
    rintro next ⟨rfl⟩
    decide
  rcases exists_namesWithin_eq_cons element.name_nonempty with ⟨shorter, names_eq⟩
  have before_blank := List.all_eq_true.mp element.before_blank
  rw [enclosed?, text, String.toList_ofList, dropWhile_append_of_ends before_blank opened,
    openingElement?_text]
  simp only [names_eq, List.findSome?_cons, bodyBefore?_closing]

theorem unwrap_text : unwrap element.text = String.ofList (trim element.body) := by
  rw [unwrap, enclosed?_text]

end Element

/-! ## White space around a text -/

section Trim

variable {text behind : List Char}

theorem trimEnd_append (visible : ∀ last ∈ text.getLast?, isBlank last = false) :
    trimEnd (text ++ behind) = text ++ trimEnd behind := by
  rw [trimEnd, List.reverse_append, dropWhile_append (by rwa [List.head?_reverse]),
    List.reverse_append, List.reverse_reverse, trimEnd]

theorem trimEnd_of_blank (blank : text.all isBlank) : trimEnd text = [] := by
  rw [trimEnd, List.dropWhile_eq_nil_iff.mpr (by simpa using blank), List.reverse_nil]

theorem trimEnd_isPrefix (text : List Char) : trimEnd text <+: text := by
  rw [← List.reverse_suffix, trimEnd, List.reverse_reverse]
  exact List.dropWhile_suffix isBlank

theorem length_trim_le (text : List Char) : (trim text).length ≤ text.length :=
  Nat.le_trans (trimEnd_isPrefix _).length_le (List.dropWhile_suffix isBlank).length_le

/-- A text is its own trimmed form with white space behind it. -/
theorem exists_append_trimEnd (text : List Char) :
    ∃ after, after.all isBlank ∧ text = trimEnd text ++ after := by
  refine ⟨(text.reverse.takeWhile isBlank).reverse, ?_, ?_⟩
  · rw [List.all_reverse]
    exact List.all_takeWhile
  · rw [trimEnd, ← List.reverse_append, List.takeWhile_append_dropWhile, List.reverse_reverse]

end Trim

/-! ## The number in a guid -/

/-- The label of a number with the first digit behind it. -/
def LabelsDigit (label : List Char) : Prop :=
  ∃ digit, isDigit digit ∧ label = "id=".toList ++ [digit]

/-- A text in which digits stand behind the label of a number for the first time. -/
structure Reference where
  before : List Char
  digits : Digits
  behind : List Char
  first : ∀ label, LabelsDigit label → ¬label <:+: before
  ends : ∀ next ∈ behind.head?, isDigit next = false

namespace Reference

variable (reference : Reference)

def text : List Char :=
  reference.before ++ ("id=".toList ++ (reference.digits.text ++ reference.behind))

/-- The same number without white space around the whole text. -/
def trimmed : Reference where
  before := reference.before.dropWhile isBlank
  digits := reference.digits
  behind := trimEnd reference.behind
  first := by
    intro label isLabel labelled
    exact reference.first label isLabel (labelled.trans (List.dropWhile_suffix isBlank).isInfix)
  ends := by
    rcases trimEnd_isPrefix reference.behind with ⟨blanks, behind_eq⟩
    intro next isHead
    apply reference.ends next
    rw [← behind_eq]
    exact List.mem_head?_append_of_mem_head? isHead

theorem trim_text : trim reference.text = reference.trimmed.text := by
  let core := reference.before.dropWhile isBlank ++ ("id=".toList ++ reference.digits.text)
  have opened : ∀ next ∈ ("id=".toList ++ (reference.digits.text ++ reference.behind)).head?,
      isBlank next = false := by
    rintro next ⟨rfl⟩
    decide
  have core_end : ∀ last ∈ core.getLast?, isBlank last = false := by
    intro last isLast
    simp only [core, ← List.append_assoc,
      List.getLast?_append_of_ne_nil _ reference.digits.nonempty] at isLast
    exact not_blank_of_isDigit (reference.digits.allDigits last (List.mem_of_getLast? isLast))
  have dropped : reference.text.dropWhile isBlank = core ++ reference.behind := by
    rw [text, dropWhile_append opened]
    simp only [core, List.append_assoc]
  rw [trim, dropped, trimEnd_append core_end]
  simp only [core, text, trimmed, List.append_assoc]

end Reference

theorem exists_of_readIdDigits? (text found : List Char) (read : readIdDigits? text = some found) :
    ∃ label, LabelsDigit label ∧ label <+: text := by
  unfold readIdDigits? at read
  split at read
  · next digit digits taken =>
      rcases Option.map_eq_some_iff.mp taken with ⟨rest, isPrefix, digits_eq⟩
      have taken : digit ∈ rest.takeWhile isDigit := by simp [digits_eq]
      have begins : [digit] <+: rest := by
        refine List.IsPrefix.trans ?_ (List.takeWhile_prefix isDigit)
        rw [digits_eq]
        exact ⟨digits, rfl⟩
      refine ⟨"id=".toList ++ [digit], ⟨digit, List.mem_takeWhile_imp taken, rfl⟩, ?_⟩
      rw [← List.isPrefixOf?_eq_some_iff_append_eq.mp isPrefix]
      exact (List.prefix_append_right_inj "id=".toList).mpr begins
  · cases read

namespace Reference

variable (reference : Reference)

theorem readIdDigits?_digits :
    readIdDigits? ("id=".toList ++ (reference.digits.text ++ reference.behind)) =
      some reference.digits.text := by
  have taken := takeWhile_append_of_ends reference.digits.allDigits reference.ends
  rcases reference.digits.exists_eq_cons with ⟨first, others, digits_eq⟩
  rw [readIdDigits?, isPrefixOf?_append, Option.map_some, taken, digits_eq]

theorem idDigits?_text : idDigits? (String.ofList reference.text) = some reference.digits.text := by
  rw [idDigits?, String.toList_ofList, text, firstMatch?_append_of_avoids exists_of_readIdDigits?]
  · exact firstMatch?_of_read reference.readIdDigits?_digits
  · intro label isLabel
    apply avoids_of_not_infix (reference.first label isLabel)
    -- The label of the number found does not begin within an earlier label of another digit.
    rcases isLabel with ⟨digit, digit_isDigit, rfl⟩
    intro next isHead next_mem
    have next_eq : 'i' = next := by simpa using isHead
    subst next_eq
    have digit_eq : 'i' = digit := by simpa using next_mem
    exact absurd digit_isDigit (by rw [← digit_eq]; decide)

/-- The number of a guid is the one behind the first label, if it is not too long to be read. -/
theorem guidNumber_trim_text (short : reference.digits.text.length ≤ digitLimit) :
    guidNumber (String.ofList (trim reference.text)) =
      .ok (some (digitsValue reference.digits.text)) := by
  have found : idDigits? (String.ofList (trim reference.text)) = some reference.digits.text := by
    rw [trim_text]
    exact reference.trimmed.idDigits?_text
  simp only [guidNumber_eq, found, if_pos short]

end Reference

/-! ## The fields of an entry -/

/--
What is inside an element is taken out of it whatever it is, and so extraction finds the number
and the category of an item there.
-/
theorem wrapped_fields_round_trip :
    (∀ element : Element, unwrap element.text = String.ofList (trim element.body)) ∧
    (∀ (item : Item) (element : Element) (reference : Reference),
      item.guid = some element.text →
      element.body = reference.text → reference.digits.text.length ≤ digitLimit →
        ∃ entry, item.extract = .ok entry ∧
          entry.id = some (digitsValue reference.digits.text) ∧
          ∃ numbered, item.extractNumbered = .ok numbered ∧ numbered.entry = entry) ∧
    ∀ (item : Item) (element : Element) (entry : Entry), item.category = some element.text →
      item.extract = .ok entry → entry.category = String.ofList (trim element.body) := by
  refine ⟨Element.unwrap_text, ?guid, ?category⟩
  case guid =>
    intro item element reference isGuid isBody short
    have parses : guidNumber item.plainGuid = .ok (some (digitsValue reference.digits.text)) := by
      rw [Item.plainGuid, isGuid, Option.getD_some, element.unwrap_text, isBody,
        reference.guidNumber_trim_text short]
    exact ⟨_, Item.extract_of_guidNumber parses, rfl, _,
      Item.extractNumbered_of_guidNumber parses, rfl⟩
  case category =>
    intro item element entry isCategory extracted
    rcases Outcome.map_eq_ok_iff.mp extracted with ⟨number, _, rfl⟩
    simp only [Item.toEntry, isCategory, Option.getD_some, element.unwrap_text]

namespace NumbersAround

/--
A guid with labels and numbers in its attributes and
around the number, and a closing element inside.
-/
def guid : Element where
  before := ['\n']
  name := "dc:guid".toList
  attributes := " ref=\x22id=9\x22".toList
  body := " 7 </dc:guid> id=x id=042id=8 ".toList
  after := []
  before_blank := by decide
  name_nonempty := by decide
  name_run := by decide
  attributes_open := by decide
  attributes_apart := by decide
  after_blank := by decide

def reference : Reference where
  before := " 7 </dc:guid> id=x ".toList
  digits := { text := "042".toList, nonempty := by decide, areDigits := by decide }
  behind := ['i', 'd', '=', '8', ' ']
  first := by
    have unlabelled : " 7 </dc:guid> id=x ".toList.all fun digit =>
        !isDigit digit ||
          !decide ("id=".toList ++ [digit] <:+: " 7 </dc:guid> id=x ".toList) := by decide
    rintro label ⟨digit, digit_isDigit, rfl⟩ isInfix
    have digit_mem : digit ∈ " 7 </dc:guid> id=x ".toList := isInfix.subset (by simp)
    have refused := List.all_eq_true.mp unlabelled digit digit_mem
    rw [digit_isDigit, decide_eq_true isInfix] at refused
    cases refused
  ends := by
    rintro next ⟨rfl⟩
    decide

def category : Element where
  before := []
  name := "category".toList
  attributes := []
  body := "\n<b>Anime</b> ".toList
  after := [' ']
  before_blank := by decide
  name_nonempty := by decide
  name_run := by decide
  attributes_open := by decide
  attributes_apart := by decide
  after_blank := by decide

def item : Item where
  guid := some guid.text
  category := some category.text

theorem wrapped_fields_round_trip_of_numbersAround :
    guid.text = "\n<dc:guid ref=\x22id=9\x22> 7 </dc:guid> id=x id=042id=8 </dc:guid>" ∧
      category.text = "<category>\n<b>Anime</b> </category> " ∧
        ∃ entry, item.extract = .ok entry ∧ entry.id = some 42 ∧
          entry.category = "<b>Anime</b>" := by
  rcases wrapped_fields_round_trip with ⟨_, numbers, categories⟩
  rcases numbers item guid reference rfl (by decide) (by decide) with
    ⟨entry, extracted, id_eq, _⟩
  refine ⟨by decide, by decide, entry, extracted, ?_, ?_⟩
  · rw [id_eq]
    decide
  · rw [categories item category entry rfl extracted]
    decide

end NumbersAround

end ReleaseWatch
