import Mathlib
import ReleaseWatch.Pattern.Title

/-!
# The openings of named groups

Whether the short form of a named group opens a group depends on all that stands before it: a
backslash takes the meaning from the character behind it, another backslash included, and nothing
opens a group inside a character class. `expandOpenings` reads a pattern in this way and turns
exactly the openings into the long form. The title patterns are expanded with a look at the single
character before, which may be a backslash that is escaped itself, and without regard to classes.
The main statement says where this makes no difference.
-/

namespace ReleaseWatch

/-- Where a token of a pattern stands. -/
inductive Zone where
  | outside
  /-- Behind the bracket that opens a character class. -/
  | classStart
  /-- Behind the sign that negates a character class. -/
  | classNegated
  | inClass
  deriving DecidableEq

/-- Where the next token stands. A closing bracket that comes first is a member of its class. -/
def Zone.next : Zone → PatternToken → Zone
  | .outside, .plain '[' => .classStart
  | .outside, _ => .outside
  | .classStart, .plain '^' => .classNegated
  | .classStart, _ => .inClass
  | .classNegated, _ => .inClass
  | .inClass, .plain ']' => .outside
  | .inClass, _ => .inClass

namespace PatternToken

/-- Whether tokens begin with the name of a group. -/
def beginName : List PatternToken → Bool
  | .plain char :: _ => startsGroupName char
  | _ => false

/--
The text of tokens, with the short form of named
groups turned into the long one outside of classes.
-/
def expandOpenings (zone : Zone) : List PatternToken → List Char
  | .plain '(' :: .plain '?' :: .plain '<' :: rest =>
      if zone = .outside ∧ beginName rest then
        '(' :: '?' :: 'P' :: '<' :: expandOpenings .outside rest
      else '(' :: expandOpenings (zone.next (.plain '(')) (.plain '?' :: .plain '<' :: rest)
  | token :: rest => token.text ++ expandOpenings (zone.next token) rest
  | [] => []

end PatternToken

/-- Whether a text begins with the short form of a named group. -/
def beginsGroup : List Char → Bool
  | '(' :: '?' :: '<' :: next :: _ => startsGroupName next
  | _ => false

/--
A place with a text before it stands outside of classes, and what stands there is not escaped.
-/
def StandsOpen (zone : Zone) (before : List Char) : Prop :=
  .loneBackslash ∉ PatternToken.ofText before ∧
  (PatternToken.ofText before).foldl Zone.next zone = .outside

/--
The character before a place is a backslash; in front
of all that stands before it there was one or not.
-/
def BehindBackslash (escaped : Bool) (before : List Char) : Prop :=
  before.getLast?.elim (escaped = true) (· = '\\')

/--
Every place with the short form of a named group has
an opening exactly if no backslash is in front of it.
-/
def ShowsOpenings (zone : Zone) (escaped : Bool) (text : List Char) : Prop :=
  ∀ before after, text = before ++ after → beginsGroup after →
    (StandsOpen zone before ↔ ¬BehindBackslash escaped before)

section Steps

open PatternToken

variable {char : Char} {rest : List Char} {zone : Zone} {escaped : Bool}

theorem exists_of_beginsGroup {text : List Char} (begins : beginsGroup text) :
    ∃ next rest, text = '(' :: '?' :: '<' :: next :: rest ∧ startsGroupName next := by
  unfold beginsGroup at begins
  split at begins
  · exact ⟨_, _, rfl, begins⟩
  · cases begins

/-- A character that no opening begins with is kept. -/
theorem expandGroupNames_cons (kept : escaped ∨ ¬beginsGroup (char :: rest)) :
    expandGroupNames escaped (char :: rest) = char :: expandGroupNames (char == '\\') rest := by
  rw [expandGroupNames.eq_def]
  split
  · rename_i next rest' same
    cases same
    have refused : ¬(!escaped && startsGroupName next) = true := by
      simpa [beginsGroup, Decidable.or_iff_not_imp_left] using kept
    rw [if_neg refused]
    rfl
  · rename_i same
    cases same
    rfl
  · rename_i same
    cases same

theorem expandGroupNames_of_beginsGroup {next : Char} (isName : startsGroupName next) :
    expandGroupNames false ('(' :: '?' :: '<' :: next :: rest) =
      '(' :: '?' :: 'P' :: '<' :: expandGroupNames false (next :: rest) := by
  rw [expandGroupNames]
  simp [isName]

theorem expandGroupNames_escaped :
    expandGroupNames escaped ('\\' :: char :: rest) =
      '\\' :: char :: expandGroupNames (char == '\\') rest := by
  have noGroup : ¬beginsGroup ('\\' :: char :: rest) := Bool.false_ne_true
  rw [expandGroupNames_cons (Or.inr noGroup)]
  exact congrArg _ (expandGroupNames_cons (Or.inl rfl))

theorem expandGroupNames_behind_bracket {text : List Char} :
    expandGroupNames false ('?' :: '<' :: text) = '?' :: '<' :: expandGroupNames false text := rfl

theorem ofText_cons (plain : char ≠ '\\') :
    ofText (char :: rest) = .plain char :: ofText rest := by
  rw [ofText]
  · exact fun isBackslash _ => plain isBackslash
  · exact fun _ _ isBackslash _ => plain isBackslash

theorem ofText_escaped : ofText ('\\' :: char :: rest) = .escaped char :: ofText rest := by
  rw [ofText]

theorem exists_of_ofText_eq_plain {text : List Char} {tokens : List PatternToken}
    (read : ofText text = .plain char :: tokens) :
    ∃ rest, text = char :: rest ∧ ofText rest = tokens := by
  unfold ofText at read
  split at read
  · cases read
  · cases read
  · cases read
  · cases read
    exact ⟨_, rfl, rfl⟩

theorem beginName_ofText {text : List Char} :
    beginName (ofText text) = beginsGroup ('(' :: '?' :: '<' :: text) := by
  cases text with
  | nil => rfl
  | cons next rest =>
      by_cases plain : next = '\\'
      · subst plain
        cases rest with
        | nil => rfl
        | cons escapedChar rest => rfl
      · rw [ofText_cons plain]
        rfl

/-- A character that no opening begins with is kept where openings are read, too. -/
theorem expandOpenings_cons (plain : char ≠ '\\')
    (kept : zone ≠ .outside ∨ ¬beginsGroup (char :: rest)) :
    expandOpenings zone (ofText (char :: rest)) =
      char :: expandOpenings (zone.next (.plain char)) (ofText rest) := by
  rw [ofText_cons plain, expandOpenings.eq_def]
  split
  · rename_i tokens same
    rw [List.cons.injEq, PatternToken.plain.injEq] at same
    rcases same with ⟨rfl, same⟩
    rcases exists_of_ofText_eq_plain same with ⟨rest', rfl, sameRest⟩
    rcases exists_of_ofText_eq_plain sameRest with ⟨rest'', rfl, rfl⟩
    have refused : ¬(zone = .outside ∧ beginName (ofText rest'') = true) := by
      rintro ⟨isOutside, named⟩
      rcases kept with inside | noGroup
      · exact inside isOutside
      · exact noGroup (beginName_ofText.symm.trans named)
    rw [if_neg refused]
    rfl
  · rename_i same
    cases same
    rfl
  · rename_i same
    cases same

theorem expandOpenings_of_beginsGroup {next : Char} (isName : startsGroupName next) :
    expandOpenings .outside (ofText ('(' :: '?' :: '<' :: next :: rest)) =
      '(' :: '?' :: 'P' :: '<' :: expandOpenings .outside (ofText (next :: rest)) := by
  have tokens : ofText ('(' :: '?' :: '<' :: next :: rest) =
      .plain '(' :: .plain '?' :: .plain '<' :: ofText (next :: rest) := rfl
  have named : beginName (ofText (next :: rest)) = true := beginName_ofText.trans isName
  rw [tokens, expandOpenings, if_pos ⟨rfl, named⟩]

theorem expandOpenings_behind_bracket {text : List Char} :
    expandOpenings zone (ofText ('?' :: '<' :: text)) =
      '?' :: '<' :: expandOpenings ((zone.next (.plain '?')).next (.plain '<')) (ofText text) := rfl

theorem expandOpenings_escaped :
    expandOpenings zone (ofText ('\\' :: char :: rest)) =
      '\\' :: char :: expandOpenings (zone.next (.escaped char)) (ofText rest) := by
  rw [ofText_escaped, expandOpenings.eq_def]
  rfl

theorem standsOpen_nil : StandsOpen zone [] ↔ zone = .outside := by
  simp [StandsOpen, ofText]

theorem standsOpen_cons {before : List Char} (plain : char ≠ '\\') :
    StandsOpen zone (char :: before) ↔ StandsOpen (zone.next (.plain char)) before := by
  simp [StandsOpen, ofText_cons plain]

theorem not_standsOpen_backslash : ¬StandsOpen zone ['\\'] := by
  simp [StandsOpen, ofText]

theorem standsOpen_escaped {before : List Char} :
    StandsOpen zone ('\\' :: char :: before) ↔ StandsOpen (zone.next (.escaped char)) before := by
  simp [StandsOpen, ofText_escaped]

theorem behindBackslash_nil : BehindBackslash escaped [] ↔ escaped = true := Iff.rfl

theorem behindBackslash_cons {before : List Char} :
    BehindBackslash escaped (char :: before) ↔ BehindBackslash (char == '\\') before := by
  cases before with
  | nil => simp [BehindBackslash]
  | cons next rest => simp [BehindBackslash, List.getLast?_cons]

theorem showsOpenings_of_short {text : List Char} (short : text.length < 4) :
    ShowsOpenings zone escaped text := by
  rintro before after rfl begins
  rcases exists_of_beginsGroup begins with ⟨next, rest, rfl, _⟩
  simp only [List.length_append, List.length_cons] at short
  omega

/-- The places of a text are its start and those of its rest. -/
theorem showsOpenings_cons (plain : char ≠ '\\') :
    ShowsOpenings zone escaped (char :: rest) ↔
      (beginsGroup (char :: rest) → (zone = .outside ↔ escaped = false)) ∧
        ShowsOpenings (zone.next (.plain char)) (char == '\\') rest := by
  constructor
  · intro shows
    constructor
    · intro begins
      simpa [standsOpen_nil, behindBackslash_nil] using shows [] _ rfl begins
    · rintro before after rfl begins
      have here := shows (char :: before) after rfl begins
      rwa [standsOpen_cons plain, behindBackslash_cons] at here
  · rintro ⟨start, shows⟩ before after same begins
    cases before with
    | nil =>
        cases same
        simpa [standsOpen_nil, behindBackslash_nil] using start begins
    | cons first before =>
        cases same
        rw [standsOpen_cons plain, behindBackslash_cons]
        exact shows before after rfl begins

/-- No opening is escaped, nor is a backslash one. -/
theorem showsOpenings_escaped :
    ShowsOpenings zone escaped ('\\' :: char :: rest) ↔
      ShowsOpenings (zone.next (.escaped char)) (char == '\\') rest := by
  constructor
  · rintro shows before after rfl begins
    have here := shows ('\\' :: char :: before) after rfl begins
    rwa [standsOpen_escaped, behindBackslash_cons, behindBackslash_cons] at here
  · rintro shows before after same begins
    match before with
    | [] =>
        cases same
        cases begins
    | [first] =>
        cases same
        exact iff_of_false not_standsOpen_backslash (by simp [BehindBackslash])
    | first :: second :: before =>
        cases same
        rw [standsOpen_escaped, behindBackslash_cons, behindBackslash_cons]
        exact shows before after rfl begins

end Steps

open PatternToken in
/-- From any place on, the expansion turns exactly the openings if every one that it meets shows. -/
theorem expandGroupNames_eq_iff_showsOpenings (text : List Char) (zone : Zone) (escaped : Bool) :
    expandGroupNames escaped text = expandOpenings zone (ofText text) ↔
      ShowsOpenings zone escaped text := by
  induction text using ofText.induct generalizing zone escaped with
  | case1 => exact iff_of_true rfl (showsOpenings_of_short (by simp))
  | case2 => exact iff_of_true rfl (showsOpenings_of_short (by simp))
  | case3 char rest ih =>
      rw [showsOpenings_escaped, expandOpenings_escaped, expandGroupNames_escaped]
      simpa using ih (zone.next (.escaped char)) (char == '\\')
  | case4 char rest notAlone notEscape ih =>
      have plain : char ≠ '\\' := by
        rintro rfl
        cases rest with
        | nil => exact notAlone rfl rfl
        | cons next rest => exact notEscape next rest rfl rfl
      have unescaped : (char == '\\') = false := beq_false_of_ne plain
      rw [showsOpenings_cons plain, unescaped]
      cases begins : beginsGroup (char :: rest) with
      | false =>
          -- what begins no group is kept by both
          have noGroup : ¬beginsGroup (char :: rest) = true := Bool.eq_false_iff.mp begins
          rw [expandGroupNames_cons (Or.inr noGroup), expandOpenings_cons plain (Or.inr noGroup),
            unescaped]
          simpa using ih (zone.next (.plain char)) false
      | true =>
          rcases exists_of_beginsGroup begins with ⟨next, others, same, isName⟩
          cases same
          have expandsRest := ih (zone.next (.plain '(')) false
          rw [expandGroupNames_behind_bracket, expandOpenings_behind_bracket] at expandsRest
          by_cases isOutside : zone = .outside
          · subst isOutside
            rw [expandOpenings_of_beginsGroup isName]
            cases escaped with
            | false =>
                rw [expandGroupNames_of_beginsGroup isName]
                simpa [Zone.next] using expandsRest
            | true =>
                rw [expandGroupNames_cons (Or.inl rfl), unescaped, expandGroupNames_behind_bracket]
                simp
          · rw [expandOpenings_cons plain (Or.inl isOutside), expandOpenings_behind_bracket]
            cases escaped with
            | false =>
                rw [expandGroupNames_of_beginsGroup isName]
                simp [isOutside]
            | true =>
                rw [expandGroupNames_cons (Or.inl rfl), unescaped, expandGroupNames_behind_bracket]
                simpa [isOutside] using expandsRest

namespace TitlePattern

/-- The text that is read as the pattern of a title. -/
def expandedText (text : String) : String :=
  String.ofList (expandGroupNames false text.toList)

/-- The text of a title pattern with exactly the openings of named groups in their long form. -/
def textWithOpenings (text : String) : String :=
  String.ofList (PatternToken.expandOpenings .outside (PatternToken.ofText text.toList))

theorem ofText_eq_ok_iff {text rule : String} {title : TitlePattern} :
    ofText text rule = .ok title ↔
      title.text = expandedText text ∧
      Pattern.ofText (expandedText text) = .ok title.pattern := by
  obtain ⟨titleText, titlePattern⟩ := title
  unfold ofText expandedText
  dsimp only
  split
  · rename_i pattern read
    simp [read, eq_comm]
  all_goals simp_all

/--
A title pattern is read with exactly the openings of its named groups in their long form if,
wherever the short form of a named group stands, it opens a group exactly when there is no
backslash right in front of it; and only then. What is read is refused only as a pattern.
-/
theorem expandedText_eq_textWithOpenings_iff (text : String) :
    (expandedText text = textWithOpenings text ↔
      ∀ before after, text.toList = before ++ after → beginsGroup after →
        (StandsOpen .outside before ↔ before.getLast? ≠ some '\\')) ∧
    ∀ rule title, ofText text rule = .ok title ↔
      title.text = expandedText text ∧
      Pattern.ofText (expandedText text) = .ok title.pattern := by
  refine ⟨?_, fun rule title => ofText_eq_ok_iff⟩
  rw [expandedText, textWithOpenings, String.ofList_inj, expandGroupNames_eq_iff_showsOpenings,
    ShowsOpenings]
  have behind (before : List Char) : BehindBackslash false before ↔
      before.getLast? = some '\\' := by
    unfold BehindBackslash
    cases before.getLast? <;> simp
  simp only [behind, ne_eq]

end TitlePattern

namespace EscapedBackslash

/-- A backslash, and behind it a named group with a digit. -/
def pattern : String :=
  "\\\\(?<ep>[0-9])"

/-- A class of four characters that looks like a group. -/
def classPattern : String :=
  "[(?<a]"

/--
A group behind a backslash that is escaped is not turned into its long form, so the pattern
is refused, which it would not be with its opening turned; and the characters of a class do
not stay what they are.
-/
theorem expandedText_ne_textWithOpenings :
    TitlePattern.expandedText pattern ≠ TitlePattern.textWithOpenings pattern ∧
    TitlePattern.ofText pattern "" = .error (.configuration (.invalidTitle pattern "")) ∧
    (∃ read, Pattern.ofText (TitlePattern.textWithOpenings pattern) = .ok read) ∧
    TitlePattern.expandedText classPattern ≠ TitlePattern.textWithOpenings classPattern := by
  refine ⟨by decide, by cbv, ?_, by decide⟩
  have isRead : (Pattern.ofText (TitlePattern.textWithOpenings pattern)).isOk = true := by cbv
  cases read : Pattern.ofText (TitlePattern.textWithOpenings pattern) with
  | ok found => exact ⟨found, rfl⟩
  | error problem =>
      rw [read] at isRead
      cases isRead

end EscapedBackslash

end ReleaseWatch
