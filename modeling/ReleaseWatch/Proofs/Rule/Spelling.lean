import ReleaseWatch.Proofs.Info.Captures
import ReleaseWatch.Proofs.Rule.Check
import ReleaseWatch.Proofs.Text.Runs

/-!
# Numbers and their spellings

A number may be written in many ways: with white space before it, with a sign, with leading
zeros, in the digits of any script, and with anything behind it that does not go on with a
digit. Titles and rules both write numbers, and a rule may also give one as such. What a group
took and what a rule expects are read in the same way, so a check compares the two numbers. The
spellings play no part in it.
-/

namespace ReleaseWatch

/-! ## Spellings -/

inductive Sign where
  | absent
  | plus
  | minus

def Sign.text : Sign → List Char
  | .absent => []
  | .plus => ['+']
  | .minus => ['-']

def Sign.isMinus : Sign → Bool
  | .minus => true
  | _ => false

/-- A number as it is written at the start of a text, with what stands around it. -/
structure Spelling where
  before : List Char
  sign : Sign
  digits : Digits
  behind : List Char
  before_blank : before.all isBlank
  short : digits.text.length ≤ digitLimit
  ends : ∀ next ∈ behind.head?, isDigit next = false

namespace Spelling

variable (spelling : Spelling)

def text : String :=
  String.ofList
    (spelling.before ++ (spelling.sign.text ++ (spelling.digits.text ++ spelling.behind)))

def number : Int :=
  if spelling.sign.isMinus then -(digitsValue spelling.digits.text : Int)
    else digitsValue spelling.digits.text

/-- A sign is split from the digits behind it, none of which is a sign. -/
theorem splitSign_append (sign : Sign) (digits : Digits) (behind : List Char) :
    Numeral.splitSign (sign.text ++ (digits.text ++ behind)) =
      (sign.isMinus, digits.text ++ behind) := by
  cases sign with
  | plus => rfl
  | minus => rfl
  | absent =>
      rcases digits.exists_eq_cons with ⟨first, others, digits_eq⟩
      have isFirst : isDigit first := digits.allDigits first (by simp [digits_eq])
      have notMinus : first ≠ '-' := by
        rintro rfl
        exact absurd isFirst (by decide)
      have notPlus : first ≠ '+' := by
        rintro rfl
        exact absurd isFirst (by decide)
      rw [Sign.text, List.nil_append, digits_eq, List.cons_append, Numeral.splitSign]
      · rfl
      · exact fun rest same => notMinus (List.cons.inj same).1
      · exact fun rest same => notPlus (List.cons.inj same).1

theorem not_blank_behind_before :
    ∀ next ∈ (spelling.sign.text ++ (spelling.digits.text ++ spelling.behind)).head?,
      isBlank next = false := by
  cases spelling.sign with
  | plus =>
      rintro next ⟨rfl⟩
      decide
  | minus =>
      rintro next ⟨rfl⟩
      decide
  | absent =>
      rcases spelling.digits.exists_eq_cons with ⟨first, others, digits_eq⟩
      rw [Sign.text, List.nil_append, digits_eq]
      rintro next ⟨rfl⟩
      exact not_blank_of_isDigit (spelling.digits.allDigits first (by simp [digits_eq]))

theorem leading?_text :
    Numeral.leading? spelling.text.toList =
      some { negative := spelling.sign.isMinus, digits := spelling.digits.text } := by
  rcases spelling.digits.exists_eq_cons with ⟨first, others, digits_eq⟩
  have taken := takeWhile_append_of_ends spelling.digits.allDigits spelling.ends
  rw [text, String.toList_ofList, Numeral.leading?,
    dropWhile_append_of_ends (List.all_eq_true.mp spelling.before_blank)
      spelling.not_blank_behind_before,
    splitSign_append]
  simp only [taken]
  rw [digits_eq]

theorem leadingInteger_text : leadingInteger spelling.text = .ok spelling.number := by
  rw [leadingInteger, leading?_text]
  simp only [Numeral.value?, natural?, if_pos spelling.short, number]
  rfl

theorem hasShortNumeral_text : HasShortNumeral spelling.text := by
  intro numeral read
  rw [leading?_text] at read
  cases read
  exact spelling.short

theorem text_ne_empty : spelling.text ≠ "" := by
  intro empty
  have read := spelling.leading?_text
  rw [empty] at read
  cases read

end Spelling

/-! ## Numbers that a title gives away -/

namespace Captures

variable {captures : Captures} {info : Info}

theorem eq_of_number {taken : Option String} {value : Int} (read : number taken = .ok value)
    {spelling : Spelling} (spelled : taken = some spelling.text) : value = spelling.number := by
  rw [spelled, number, spelling.leadingInteger_text] at read
  exact (Except.ok.inj read).symm

theorem lastEpisode?_spelled {spelling : Spelling}
    (taken : captures.text? "endep" = some spelling.text) :
    captures.lastEpisode? = some spelling.text := by
  unfold lastEpisode?
  rw [taken]
  split
  · next impossible => cases impossible
  · next empty => exact absurd (Option.some.inj empty) spelling.text_ne_empty
  · next text same => exact same.symm

/-- Nothing was taken for the last episode, or the empty text. -/
def LeavesLastEpisode (captures : Captures) : Prop :=
  captures.text? "endep" = none ∨ captures.text? "endep" = some ""

theorem endep_eq_ep_of_left (made : Captures.info captures = .ok info)
    (left : captures.LeavesLastEpisode) :
    info.endep = info.ep := by
  have sameText : captures.lastEpisode? = captures.text? "ep" := by
    unfold lastEpisode?
    rcases left with missing | empty
    · rw [missing]
    · rw [empty]
      rfl
  rcases reads_of_info made with ⟨readEp, readEndep, _⟩
  rw [sameText, readEp] at readEndep
  exact (Except.ok.inj readEndep).symm

/-- An info holds the number of a spelling under the key whose group took it. -/
theorem get_of_spelled (made : Captures.info captures = .ok info) {key : InfoKey}
    (key_mem : key ∈ InfoKey.numbers)
    {spelling : Spelling} (taken : captures.text? key.label = some spelling.text) :
    info.get key = .number spelling.number := by
  rcases reads_of_info made with ⟨readEp, readEndep, readVer, readRes, readBit, _⟩
  cases key with
  | ep => exact congrArg InfoValue.number (eq_of_number readEp taken)
  | endep => exact congrArg InfoValue.number (eq_of_number readEndep (lastEpisode?_spelled taken))
  | ver => exact congrArg InfoValue.number (eq_of_number readVer taken)
  | res => exact congrArg InfoValue.number (eq_of_number readRes taken)
  | bit => exact congrArg InfoValue.number (eq_of_number readBit taken)
  | _ => exact absurd key_mem (by decide)

end Captures

/-! ## Numbers that a rule expects -/

/-- A value stands for a number: an integer for itself, and a text for the number at its start. -/
inductive Value.StandsFor : Value → Int → Prop
  | int (number : Int) : StandsFor (.int number) number
  | bool (value : Bool) : StandsFor (.bool value) (if value then 1 else 0)
  | spelled (spelling : Spelling) : StandsFor (.text spelling.text) spelling.number

theorem Value.StandsFor.leadingInteger {value : Value} {number : Int}
    (stands : value.StandsFor number) :
    value.leadingInteger = .ok number := by
  cases stands with
  | int => rfl
  | bool => rfl
  | spelled spelling => exact spelling.leadingInteger_text

/-- Values that stand for numbers, in a list at any depth, begin with numerals that can be read. -/
theorem Value.hasShortNumerals_of_standsFor {value : Value}
    (stand : ∀ offered, value.Offers offered → ∃ number, offered.StandsFor number) :
    value.HasShortNumerals where
  texts := by
    intro content offers
    rcases stand _ offers with ⟨number, stands⟩
    generalize same : Value.text content = offered at stands
    cases stands with
    | int => cases same
    | bool => cases same
    | spelled spelling =>
        cases same
        exact spelling.hasShortNumeral_text
  mappings := by
    intro fields offers
    rcases stand _ offers with ⟨number, stands⟩
    cases stands

namespace Rule

variable {info : Info} {key : InfoKey} {expected other : Value} {wanted : Int}

/-- The check of a single key asks what the info holds under it. -/
theorem passes_single (numeric : key.isNumeric) (expected : Value) :
    passes info [(key, expected)] = expected.admits (info.get key) := by
  have isChecked : info.isChecked key := by simp [Info.isChecked, numeric]
  rw [passes, if_pos isChecked]
  cases tried : expected.admits (info.get key) with
  | error failure => rfl
  | ok passed => cases passed <;> rfl

theorem passes_of_standsFor (numeric : key.isNumeric) (stands : expected.StandsFor wanted) :
    passes info [(key, expected)] = expected.admitsOne (info.get key) := by
  rw [passes_single numeric]
  cases stands <;> rw [Value.admits]

theorem passes_number {number : Int} (numeric : key.isNumeric)
    (held : info.get key = .number number) (stands : expected.StandsFor wanted) :
    passes info [(key, expected)] = .ok (number == wanted) := by
  rw [passes_of_standsFor numeric stands, held, Value.admitsOne, stands.leadingInteger]
  rfl

theorem passes_eps (stands : expected.StandsFor wanted) :
    passes info [(.eps, expected)] = .ok (info.ep ≤ wanted && wanted ≤ info.endep) := by
  rw [passes_of_standsFor rfl stands, Info.get, Value.admitsOne, stands.leadingInteger]
  simp only [← Int.lt_add_one_iff]
  rfl

/--
Numbers and ranges are checked against the number that
a value stands for, and nothing else of the value.
-/
theorem passes_congr (numeric : key.isNumeric) (stands : expected.StandsFor wanted)
    (standsToo : other.StandsFor wanted) :
    passes info [(key, expected)] = passes info [(key, other)] := by
  cases key with
  | name => cases numeric
  | crc => cases numeric
  | group => cases numeric
  | eps => rw [passes_eps stands, passes_eps standsToo]
  | _ => rw [passes_number numeric rfl stands, passes_number numeric rfl standsToo]

theorem passes_list {items : List Value} (numeric : key.isNumeric)
    (short : (Value.list items).HasShortNumerals) :
    ∃ passed, passes info [(key, .list items)] = .ok passed ∧
      (passed = true ↔ ∃ item ∈ items, passes info [(key, item)] = .ok true) := by
  rcases Value.admits_eq_ok (info.get key) (.list items) short with ⟨passed, tried, passed_iff⟩
  refine ⟨passed, by rw [passes_single numeric, tried], ?_⟩
  rw [passed_iff, InfoValue.passes_list_iff]
  apply exists_congr
  intro item
  apply and_congr_right
  intro item_mem
  rcases Value.admits_eq_ok (info.get key) item (Value.hasShortNumerals_of_mem short item_mem) with
    ⟨itemPassed, triedItem, itemPassed_iff⟩
  rw [passes_single numeric, triedItem, Except.ok.injEq, itemPassed_iff]

end Rule

/--
A check of a number compares what the group took with what is expected as numbers, however the two
are written; that of the episodes asks for a number from the first one to the last one, which is
the first one if no other was taken; and a list passes if one of its elements does. An info is
made whenever the groups of numbers can be read.
-/
theorem checks_compare_numbers (captures : Captures) :
    ((∀ key ∈ InfoKey.numbers, ∀ text, captures.text? key.label = some text →
      HasShortNumeral text) →
      ∃ info, Captures.info captures = .ok info) ∧
    ∀ info, Captures.info captures = .ok info →
      (∀ key ∈ InfoKey.numbers, ∀ spelling : Spelling, captures.text? key.label =
        some spelling.text →
        info.get key = .number spelling.number ∧
        ∀ expected wanted, expected.StandsFor wanted →
          Rule.passes info [(key, expected)] = .ok (spelling.number == wanted)) ∧
      (captures.LeavesLastEpisode → info.endep = info.ep) ∧
      (∀ expected wanted, expected.StandsFor wanted →
        Rule.passes info [(.eps, expected)] = .ok (info.ep ≤ wanted && wanted ≤ info.endep)) ∧
      (∀ key items, key.isNumeric → (Value.list items).HasShortNumerals →
        ∃ passed, Rule.passes info [(key, .list items)] = .ok passed ∧
          (passed = true ↔ ∃ item ∈ items, Rule.passes info [(key, item)] = .ok true)) ∧
      ∀ key expected other wanted, key.isNumeric → expected.StandsFor wanted →
        other.StandsFor wanted →
        Rule.passes info [(key, expected)] = Rule.passes info [(key, other)] := by
  refine ⟨Captures.exists_info_of_numbers, ?_⟩
  intro info made
  refine ⟨?spelled, Captures.endep_eq_ep_of_left made, fun expected wanted => Rule.passes_eps,
    fun key items => Rule.passes_list, fun key expected other wanted => Rule.passes_congr⟩
  case spelled =>
    intro key key_mem spelling taken
    have numeric : ∀ key ∈ InfoKey.numbers, key.isNumeric := by decide
    have held := Captures.get_of_spelled made key_mem taken
    exact ⟨held, fun expected wanted => Rule.passes_number (numeric key key_mem) held⟩

namespace ManySpellings

/-- A seven with a sign and zeros before it, and a version behind it. -/
def seventh : Spelling where
  before := ['\u3000']
  sign := .plus
  digits := { text := "007".toList, nonempty := by decide, areDigits := by decide }
  behind := "v2".toList
  before_blank := by decide
  short := by decide
  ends := by
    rintro next ⟨rfl⟩
    decide

/-- A seven in the digits of another script, on a line of its own. -/
def otherSeventh : Spelling where
  before := ['\t', '\n']
  sign := .absent
  digits := { text := ['\u0660', '\u0667'], nonempty := by decide, areDigits := by decide }
  behind := []
  before_blank := by decide
  short := by decide
  ends := by simp

def captures : Captures :=
  [("name", some "Show"), ("ep", some "\u3000+007v2"), ("endep", some ""), ("res", none)]

/-- A list with the seventh episode in an inner list, behind another number. -/
def expected : List Value :=
  [.int 9, .list [.bool true, .text otherSeventh.text]]

theorem standsFor_of_offers_inner {offered : Value}
    (offers : (Value.list [.bool true, .text otherSeventh.text]).Offers offered) :
    ∃ number, offered.StandsFor number := by
  cases offers with
  | item item_mem offers =>
      simp only [List.mem_cons, List.not_mem_nil, or_false] at item_mem
      rcases item_mem with rfl | rfl
      · cases offers
        exact ⟨1, .bool true⟩
      · cases offers
        exact ⟨_, .spelled otherSeventh⟩

theorem standsFor_of_offers {offered : Value} (offers : (Value.list expected).Offers offered) :
    ∃ number, offered.StandsFor number := by
  cases offers with
  | item item_mem offers =>
      simp only [expected, List.mem_cons, List.not_mem_nil, or_false] at item_mem
      rcases item_mem with rfl | rfl
      · cases offers
        exact ⟨9, .int 9⟩
      · exact standsFor_of_offers_inner offers

theorem hasShortNumeral_of_taken :
    ∀ key ∈ InfoKey.numbers, ∀ text, captures.text? key.label = some text →
    HasShortNumeral text := by
  have onlyEpisodes : ∀ key ∈ InfoKey.numbers, ∀ text ∈ captures.text? key.label,
      text = seventh.text ∨ text = "" := by
    decide
  intro key key_mem text taken
  rcases onlyEpisodes key key_mem text taken with rfl | rfl
  · exact seventh.hasShortNumeral_text
  · intro numeral read
    cases read

theorem checks_compare_numbers_of_seven :
    ∃ info, Captures.info captures = .ok info ∧
      Rule.passes info [(.ep, .text otherSeventh.text)] = .ok true ∧
      Rule.passes info [(.ep, .int 8)] = .ok false ∧
      info.endep = 7 ∧ Rule.passes info [(.eps, .int 7)] = .ok true ∧
      Rule.passes info [(.ep, .list expected)] = .ok true := by
  rcases checks_compare_numbers captures with ⟨makes, compares⟩
  rcases makes hasShortNumeral_of_taken with ⟨info, made⟩
  rcases compares info made with ⟨spelled, left, episodes, lists, _⟩
  rcases spelled .ep (by decide) seventh (by decide) with ⟨held, checked⟩
  have isSeven : Rule.passes info [(.ep, .text otherSeventh.text)] = .ok true :=
    checked _ _ (.spelled otherSeventh)
  have ep_eq : info.ep = 7 := InfoValue.number.inj held
  have endep_eq : info.endep = 7 := (left (Or.inr rfl)).trans ep_eq
  have inRange := episodes _ 7 (.int 7)
  rw [ep_eq, endep_eq] at inRange
  have isSeventh : Rule.passes info [(.ep, .list [.bool true, .text otherSeventh.text])] =
      .ok true := by
    rcases lists .ep [.bool true, .text otherSeventh.text] rfl
      (Value.hasShortNumerals_of_standsFor fun _ => standsFor_of_offers_inner) with
        ⟨passed, tried, passed_iff⟩
    rw [tried, passed_iff.mpr ⟨_, by simp, isSeven⟩]
  rcases lists .ep expected rfl (Value.hasShortNumerals_of_standsFor fun _ =>
    standsFor_of_offers) with
    ⟨passed, tried, passed_iff⟩
  rw [passed_iff.mpr ⟨_, by simp [expected], isSeventh⟩] at tried
  exact ⟨info, made, isSeven, checked _ _ (.int 8), endep_eq, inRange, tried⟩

end ManySpellings

end ReleaseWatch
