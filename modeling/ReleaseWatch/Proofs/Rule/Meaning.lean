import Mathlib
import ReleaseWatch.Proofs.Info.Captures
import ReleaseWatch.Proofs.Macro.DistinctKeys
import ReleaseWatch.Proofs.Rule.Building
import ReleaseWatch.Proofs.Rule.Check

/-!
# What it means to match a rule

A rule matches an entry as its mapping says. If a field selector does not hold, the entry is
passed over. If all of them hold, a selector that names nothing is an error. Otherwise the match
of the title pattern makes an info, and the entry matches exactly if every key that names
something of an info passes its check. That keys are sorted into matchers, gates and checks
beforehand makes no difference, and no check is ever skipped: the gates see to it that an info has
whatever a check asks for.
-/

namespace ReleaseWatch

namespace Rule

/-- Every field selector of a mapping holds of an entry. -/
def FieldsHold (rule : String) (fields : Mapping) (entry : Entry) : Prop :=
  ∀ selector value field, (.text selector, value) ∈ fields →
    EntryField.ofSelector? selector = some field → FieldHolds rule entry field value

/--
The title pattern has the group of a selector, or
the one that the range of episodes is derived from.
-/
def Binds (rule : String) (fields : Mapping) (selector : String) : Prop :=
  ∃ title, AsksForTitle rule fields title ∧
    (selector ∈ title.groupNames ∨ selector = "eps" ∧ "ep" ∈ title.groupNames)

/-- Every selector that names no field is bound. -/
def SelectorsBound (rule : String) (fields : Mapping) : Prop :=
  ∀ selector value, (.text selector, value) ∈ fields →
    EntryField.ofSelector? selector = none →
    Binds rule fields selector

/-- The info that a mapping derives from an entry; none if it asks for no title pattern. -/
inductive Derives (rule : String) (fields : Mapping) (entry : Entry) : Option Info → Prop
  | title {title : TitlePattern} {found : Match} {info : Info}
      (asked : AsksForTitle rule fields title)
      (searched : entry.title.bind title.search? = some found)
      (made : Captures.info found.captures = .ok info) : Derives rule fields entry (some info)
  | noTitle (unasked : ∀ title, ¬AsksForTitle rule fields title) : Derives rule fields entry none

/-- Every key that names something of an info passes its check against the info that was derived. -/
def ChecksPass (fields : Mapping) (info : Option Info) : Prop :=
  ∀ (key : InfoKey) value, (.text key.label, value) ∈ fields →
    ∃ derived, info = some derived ∧ (derived.get key).Passes value

/--
An attempt comes to a match with an info if the
checks of that info pass, and to none if they do not.
-/
def DecidedByChecks (rule : String) (fields : Mapping) (info : Option Info)
    (outcome : Except Failure (Option RuleMatch)) : Prop :=
  (ChecksPass fields info →
    ∃ result, outcome = .ok (some result) ∧ result.rule = rule ∧ result.info = info) ∧
  (¬ChecksPass fields info → outcome = .ok none)

/-- No numeral that is read for a match has too many digits, and no integer that is written. -/
structure ShortNumerals (rule : String) (fields : Mapping) (entry : Entry) : Prop where
  captured : ∀ title found, AsksForTitle rule fields title →
    entry.title.bind title.search? = some found → Captures.HaveShortNumerals found.captures
  checks : ∀ (key : InfoKey) value, (.text key.label, value) ∈ fields → value.HasShortNumerals
  written : ∀ (key : InfoKey) value, (.text key.label, value) ∈ fields →
    value.hasLongInteger = false

/-- A gate that is not bound is an error; otherwise the gates are passed. -/
theorem checkGates_cases (rule : Rule) (entry : Entry) (captures : Captures) :
    (rule.checkGates entry captures = .ok () ∧
      ∀ gate ∈ rule.gates, isBound captures gate.selector = true) ∨
    ∃ gate ∈ rule.gates, isBound captures gate.selector = false ∧
      rule.checkGates entry captures = .error (rule.unbound entry gate.selector) := by
  unfold checkGates
  split
  · rename_i allBound
    left
    exact ⟨rfl, by simpa using allBound⟩
  · rename_i gate first
    right
    exact ⟨gate, List.mem_of_find?_eq_some first, by simpa using List.find?_some first, rfl⟩

/--
Checks that are all made come to an answer, and the answer is yes exactly if every one is passed.
-/
theorem passes_eq_ok {info : Info} {checks : List (InfoKey × Value)}
    (checked : ∀ check ∈ checks, info.isChecked check.1 = true)
    (short : ∀ check ∈ checks, check.2.HasShortNumerals) :
    ∃ passed, passes info checks = .ok passed ∧
      (passed = true ↔ ∀ check ∈ checks, (info.get check.1).Passes check.2) := by
  induction checks with
  | nil => exact ⟨true, rfl, by simp⟩
  | cons check rest ih =>
      obtain ⟨key, expected⟩ := check
      rw [List.forall_mem_cons] at checked short
      rcases Value.admits_eq_ok (info.get key) expected short.1 with ⟨passed, tried, passed_iff⟩
      rw [passes, if_pos checked.1, tried, List.forall_mem_cons, ← passed_iff]
      cases passed with
      | false => exact ⟨false, rfl, by simp⟩
      | true =>
          rcases ih checked.2 short.2 with ⟨others, triedRest, others_iff⟩
          exact ⟨others, triedRest, by simp [others_iff]⟩

/-- Checks that can be written are all tried. -/
theorem triedChecks_of_short {info : Info} {checks : List (InfoKey × Value)}
    (short : ∀ check ∈ checks, check.2.hasLongInteger = false) :
    triedChecks info checks = checks := by
  induction checks with
  | nil => rfl
  | cons check rest ih =>
      rw [List.forall_mem_cons] at short
      rw [triedChecks, short.1, Bool.and_false, if_neg Bool.false_ne_true, ih short.2]

theorem exists_writtenChecks (info : Info) {checks : List (InfoKey × Value)}
    (short : ∀ check ∈ checks, check.2.hasLongInteger = false) :
    ∃ written, writtenChecks info checks = .ok written := by
  induction checks with
  | nil => exact ⟨[], rfl⟩
  | cons check rest ih =>
      obtain ⟨key, expected⟩ := check
      rw [List.forall_mem_cons] at short
      rcases ih short.2 with ⟨others, writtenRest⟩
      rw [writtenChecks, Value.toText_of_short short.1, writtenRest]
      split
      · exact ⟨_, rfl⟩
      · exact ⟨others, rfl⟩

/-- A match says why it is one, if what it was checked against can be written. -/
theorem exists_reason (title : TitlePattern) (info : Info) {checks : List (InfoKey × Value)}
    (short : ∀ check ∈ checks, check.2.hasLongInteger = false) :
    ∃ text, reason title info checks = .ok text := by
  rcases exists_writtenChecks info short with ⟨written, done⟩
  exact ⟨_, Outcome.map_eq_ok_iff.mpr ⟨written, done, rfl⟩⟩

variable {name : String} {fields : Mapping} {rule : Rule} {entry : Entry}

theorem AsksForTitle.unique (distinct : fields.DistinctKeys) {title other : TitlePattern}
    (asked : AsksForTitle name fields title) (otherAsked : AsksForTitle name fields other) :
    title = other := by
  rcases asked with ⟨pattern, pattern_mem, read⟩
  rcases otherAsked with ⟨otherPattern, other_mem, otherRead⟩
  cases distinct.value_eq pattern_mem other_mem
  rw [read] at otherRead
  exact Except.ok.inj otherRead

theorem Derives.unique (distinct : fields.DistinctKeys) {info other : Option Info}
    (derived : Derives name fields entry info) (otherDerived : Derives name fields entry other) :
    info = other := by
  cases derived with
  | @title title found info asked searched made =>
      cases otherDerived with
      | @title otherTitle otherFound otherInfo otherAsked otherSearched otherMade =>
          cases asked.unique distinct otherAsked
          rw [searched] at otherSearched
          cases otherSearched
          rw [made] at otherMade
          rw [Except.ok.inj otherMade]
      | noTitle unasked => exact absurd asked (unasked title)
  | noTitle unasked =>
      cases otherDerived with
      | @title title found info asked searched made => exact absurd asked (unasked title)
      | noTitle _ => rfl

theorem isBound_nil_iff (unasked : ∀ title, ¬AsksForTitle name fields title)
    (selector : String) :
    isBound [] selector = true ↔ Binds name fields selector := by
  constructor
  · intro bound
    simp [isBound, Captures.hasGroup] at bound
  · rintro ⟨title, asked, _⟩
    exact absurd asked (unasked title)

theorem isBound_iff (distinct : fields.DistinctKeys) {title : TitlePattern} {found : Match}
    (asked : AsksForTitle name fields title)
    (searched : entry.title.bind title.search? = some found) (selector : String) :
    isBound found.captures selector = true ↔ Binds name fields selector := by
  rcases Option.bind_eq_some_iff.mp searched with ⟨text, _, searched⟩
  have groups := TitlePattern.names_eq_of_search? searched
  simp only [isBound, Bool.or_eq_true, Bool.and_eq_true, beq_iff_eq, Captures.hasGroup_iff, groups]
  constructor
  · exact fun named => ⟨title, asked, named⟩
  · rintro ⟨other, otherAsked, named⟩
    rw [asked.unique distinct otherAsked]
    exact named

namespace BuiltFrom

theorem title?_eq_some_iff (built : BuiltFrom name fields rule) (distinct : fields.DistinctKeys)
    {title : TitlePattern} : rule.title? = some title ↔ AsksForTitle name fields title := by
  have asked_of_first : ∀ first, rule.title? = some first → AsksForTitle name fields first := by
    intro first isFirst
    rcases List.exists_of_findSome?_eq_some isFirst with ⟨matcher, matcher_mem, isTitle⟩
    cases matcher with
    | titlePattern found =>
        cases isTitle
        exact (built.titlePattern_mem_iff first).mp matcher_mem
    | anyOf selector field values => cases isTitle
    | equal selector field value => cases isTitle
  constructor
  · exact asked_of_first title
  · intro asked
    have matcher_mem := (built.titlePattern_mem_iff title).mpr asked
    cases isFirst : rule.title? with
    | none => cases List.findSome?_eq_none_iff.mp isFirst _ matcher_mem
    | some first => rw [(asked_of_first first isFirst).unique distinct asked]

theorem match?_of_not_fieldsHold (built : BuiltFrom name fields rule)
    (distinct : fields.DistinctKeys)
    (fails : ¬FieldsHold name fields entry) : rule.match? entry = .ok none := by
  have refused : ¬∀ matcher ∈ rule.matchers, matcher.Accepts entry :=
    mt (built.accepts_iff entry).mp fails
  unfold match?
  split
  · rename_i allHold
    -- the matcher that fails is the title pattern, as all others hold
    obtain ⟨title, title_mem, notFound⟩ : ∃ title, .titlePattern title ∈ rule.matchers ∧
        entry.title.bind title.search? = none := by
      rcases Classical.not_forall.mp refused with ⟨matcher, refuses⟩
      rcases Classical.not_imp.mp refuses with ⟨matcher_mem, refuses⟩
      have holds := List.all_eq_true.mp allHold matcher matcher_mem
      cases matcher with
      | titlePattern title =>
          refine ⟨title, matcher_mem, Option.eq_none_iff_forall_ne_some.mpr ?_⟩
          exact fun found searched => refuses ⟨found, searched⟩
      | anyOf selector field values => exact absurd holds refuses
      | equal selector field value => exact absurd holds refuses
    have first :=
      (built.title?_eq_some_iff distinct).mpr ((built.titlePattern_mem_iff title).mp title_mem)
    simp [first, notFound]
  · rfl

/-- Once the field selectors hold, either the title pattern was found or there is none. -/
theorem match?_of_fieldsHold (built : BuiltFrom name fields rule) (distinct : fields.DistinctKeys)
    (holds : FieldsHold name fields entry) :
    (∃ title found, AsksForTitle name fields title ∧
      entry.title.bind title.search? = some found ∧
      rule.match? entry = rule.matchFound entry title found) ∨
    (∀ title, ¬AsksForTitle name fields title) ∧
      rule.match? entry = rule.matchFields entry := by
  have accepts := (built.accepts_iff entry).mpr holds
  have allHold : rule.matchers.all (·.holds entry) = true :=
    List.all_eq_true.mpr fun matcher matcher_mem =>
      Matcher.holds_of_accepts (accepts matcher matcher_mem)
  cases first : rule.title? with
  | none =>
      right
      constructor
      · intro title asked
        rw [(built.title?_eq_some_iff distinct).mpr asked] at first
        cases first
      · rw [match?, if_pos allHold, first]
  | some title =>
      left
      have asked := (built.title?_eq_some_iff distinct).mp first
      rcases accepts _ ((built.titlePattern_mem_iff title).mpr asked) with ⟨found, searched⟩
      exact ⟨title, found, asked, searched, by simp [match?, allHold, first, searched]⟩

variable {captures : Captures}

theorem checkGates_of_bound (built : BuiltFrom name fields rule) (entry : Entry)
    (agree : ∀ selector, isBound captures selector = true ↔ Binds name fields selector)
    (bound : SelectorsBound name fields) : rule.checkGates entry captures = .ok () := by
  rcases checkGates_cases rule entry captures with
    ⟨checked, _⟩ | ⟨gate, gate_mem, unbound, _⟩
  · exact checked
  · rcases (built.mem_gates_iff gate.selector).mp ⟨gate, gate_mem, rfl⟩ with
      ⟨other, value, field_mem⟩
    have binds := (agree gate.selector).mpr (bound gate.selector value field_mem other)
    rw [unbound] at binds
    cases binds

/-- Without all selectors bound, the gates fail with one that is not. -/
theorem checkGates_of_not_bound (built : BuiltFrom name fields rule) (entry : Entry)
    (agree : ∀ selector, isBound captures selector = true ↔ Binds name fields selector)
    (notBound : ¬SelectorsBound name fields) :
    ∃ selector value, (.text selector, value) ∈ fields ∧
      EntryField.ofSelector? selector = none ∧
      ¬Binds name fields selector ∧
      rule.checkGates entry captures =
        .error (.configuration (.unboundSelector selector name entry.description)) := by
  rcases checkGates_cases rule entry captures with
    ⟨_, allBound⟩ | ⟨gate, gate_mem, unbound, failed⟩
  · exfalso
    apply notBound
    intro selector value field_mem other
    rcases (built.mem_gates_iff selector).mpr ⟨other, value, field_mem⟩ with
      ⟨gate, gate_mem, rfl⟩
    exact (agree gate.selector).mp (allBound gate gate_mem)
  · rcases (built.mem_gates_iff gate.selector).mp ⟨gate, gate_mem, rfl⟩ with
      ⟨other, value, field_mem⟩
    refine ⟨gate.selector, value, field_mem, other,
      ?_, by rw [failed, Rule.unbound, built.name_eq]⟩
    rw [← agree gate.selector, unbound]
    exact Bool.false_ne_true

/-- Once the selectors are bound, no check of the info is skipped. -/
theorem isChecked_of_bound (built : BuiltFrom name fields rule)
    (agree : ∀ selector, isBound captures selector = true ↔ Binds name fields selector)
    (bound : SelectorsBound name fields) {info : Info} (made : Captures.info captures = .ok info) :
    ∀ check ∈ rule.infoChecks, info.isChecked check.1 = true := by
  rintro ⟨key, value⟩ check_mem
  have field_mem := (built.mem_infoChecks_iff key value).mp check_mem
  have binds := (agree key.label).mpr (bound key.label value field_mem key.ofSelector?_label)
  apply Captures.isChecked_of_info made
  rw [isBound, Bool.or_eq_true, Bool.and_eq_true, beq_iff_eq] at binds
  rcases binds with grouped | ⟨derived, _⟩
  · exact Or.inr grouped
  · left
    have isEps : key = .eps := InfoKey.eq_of_label_eq derived
    rw [isEps]
    rfl

/--
With all selectors bound, the match of the title
pattern makes an info, which the checks decide on.
-/
theorem matchFound_of_bound (built : BuiltFrom name fields rule) (distinct : fields.DistinctKeys)
    (short : ShortNumerals name fields entry) {title : TitlePattern} {found : Match}
    (asked : AsksForTitle name fields title)
    (searched : entry.title.bind title.search? = some found) (bound : SelectorsBound name fields) :
    ∃ info, Captures.info found.captures = .ok info ∧
      DecidedByChecks name fields (some info) (rule.matchFound entry title found) := by
  have agree := isBound_iff distinct asked searched
  rcases Captures.exists_info (short.captured title found asked searched) with ⟨info, made⟩
  have checked := built.isChecked_of_bound agree bound made
  have numerals : ∀ check ∈ rule.infoChecks, check.2.HasShortNumerals := fun check check_mem =>
    short.checks check.1 check.2 ((built.mem_infoChecks_iff check.1 check.2).mp check_mem)
  have written : ∀ check ∈ rule.infoChecks, check.2.hasLongInteger = false :=
    fun check check_mem =>
    short.written check.1 check.2 ((built.mem_infoChecks_iff check.1 check.2).mp check_mem)
  rcases passes_eq_ok checked numerals with ⟨passed, decided, passed_iff⟩
  rcases exists_reason title info written with ⟨text, isReason⟩
  have checksPass_iff : ChecksPass fields (some info) ↔ passed = true := by
    rw [passed_iff]
    constructor
    · rintro pass ⟨key, value⟩ check_mem
      rcases pass key value ((built.mem_infoChecks_iff key value).mp check_mem) with
        ⟨derived, same, passes⟩
      cases same
      exact passes
    · intro pass key value field_mem
      exact ⟨info, rfl, pass (key, value) ((built.mem_infoChecks_iff key value).mpr field_mem)⟩
  refine ⟨info, made, ?_⟩
  rw [DecidedByChecks, checksPass_iff, matchFound, built.checkGates_of_bound entry agree bound]
  simp only [bind, Outcome.bind_ok, made, triedChecks_of_short written, decided, isReason]
  cases passed with
  | true => exact ⟨fun _ => ⟨_, rfl, built.name_eq, rfl⟩, nofun⟩
  | false => exact ⟨nofun, fun _ => rfl⟩

/-- With all selectors bound, a mapping without a title pattern asks for no checks. -/
theorem matchFields_of_bound (built : BuiltFrom name fields rule)
    (unasked : ∀ title, ¬AsksForTitle name fields title) (bound : SelectorsBound name fields) :
    DecidedByChecks name fields none (rule.matchFields entry) := by
  have agree := isBound_nil_iff unasked
  constructor
  · intro _
    rw [matchFields, built.checkGates_of_bound entry agree bound]
    exact ⟨_, rfl, built.name_eq, rfl⟩
  · intro failed
    exfalso
    apply failed
    intro key value field_mem
    rcases bound key.label value field_mem key.ofSelector?_label with ⟨title, asked, _⟩
    exact absurd asked (unasked title)

end BuiltFrom

end Rule

namespace FirstEpisode

/-- The pattern of a number of one digit. -/
def title : TitlePattern where
  text := "(?P<ep>[0-9])"
  pattern :=
    { root := .group 1 (.one {} (.items false [.range 0x30 0x39])), groups := 1,
      names := [("ep", 1)] }

/-- A rule for releases that cover the first episode. -/
def fields : Mapping :=
  [(.text "title", .text "(?<ep>[0-9])"), (.text "eps", .scalar (.int 1))]

def rule : Rule where
  name := "accept[0]"
  matchers := [.titlePattern title]
  gates := [{ selector := "eps", value := .scalar (.int 1) }]
  infoChecks := [(.eps, .scalar (.int 1))]
  source := fields

/-- An entry with a title that has a number. -/
def entry : Entry :=
  { title := some "B1" }

/-- The match of the number. -/
def found : Match where
  first := 1
  stop := 2
  captures := [("ep", some "1")]

/-- What the number says. -/
def info : Info :=
  { name := none, ep := 1, endep := 1, captured := ["ep"] }

theorem ofText_title : TitlePattern.ofText "(?<ep>[0-9])" "accept[0]" = .ok title := by cbv

theorem search?_title : entry.title.bind title.search? = some found := by cbv

theorem asksForTitle_iff (other : TitlePattern) :
    Rule.AsksForTitle "accept[0]" fields other ↔ other = title := by
  simp [Rule.AsksForTitle, fields, ofText_title, eq_comm]

theorem mem_fields_iff {selector : String} {value : Value} :
    (.text selector, value) ∈ fields ↔
      selector = "title" ∧ value = .text "(?<ep>[0-9])" ∨
        selector = "eps" ∧ value = .scalar (.int 1) := by
  simp [fields]

theorem eq_of_mem_fields {key : InfoKey} {value : Value}
    (field_mem : (.text key.label, value) ∈ fields) :
    key = .eps ∧ value = .scalar (.int 1) := by
  have other := key.ofSelector?_label
  rcases mem_fields_iff.mp field_mem with ⟨named, _⟩ | ⟨named, same⟩
  · rw [named] at other
    cases other
  · exact ⟨InfoKey.eq_of_label_eq named, same⟩

theorem shortNumerals : Rule.ShortNumerals "accept[0]" fields entry where
  captured := by
    intro other otherFound asked otherSearched
    cases (asksForTitle_iff other).mp asked
    rw [search?_title] at otherSearched
    cases otherSearched
    intro name text captured
    simp only [found, List.mem_singleton, Prod.mk.injEq, Option.some.injEq] at captured
    rcases captured with ⟨_, rfl⟩
    have read : Numeral.leading? "1".toList = some { negative := false, digits := ['1'] } := by cbv
    intro numeral other
    rw [read] at other
    cases other
    decide
  checks := by
    intro key value field_mem
    rcases eq_of_mem_fields field_mem with ⟨_, rfl⟩
    constructor <;> intro _ offers <;> cases offers
  written := by
    intro key value field_mem
    rcases eq_of_mem_fields field_mem with ⟨_, rfl⟩
    decide +kernel

theorem fieldsHold : Rule.FieldsHold "accept[0]" fields entry := by
  intro selector value field field_mem named
  rcases mem_fields_iff.mp field_mem with ⟨rfl, rfl⟩ | ⟨rfl, rfl⟩
  · cases named
    exact ⟨title, "B1", found, ofText_title, rfl, search?_title⟩
  · cases named

theorem selectorsBound : Rule.SelectorsBound "accept[0]" fields := by
  intro selector value field_mem other
  refine ⟨title, (asksForTitle_iff title).mpr rfl, ?_⟩
  rcases mem_fields_iff.mp field_mem with ⟨rfl, _⟩ | ⟨rfl, _⟩
  · cases other
  · exact Or.inr ⟨rfl, by decide⟩

theorem checksPass : Rule.ChecksPass fields (some info) := by
  intro key value field_mem
  rcases eq_of_mem_fields field_mem with ⟨rfl, rfl⟩
  exact ⟨info, rfl, InfoValue.passes_scalar_iff.mpr ⟨1, rfl, by decide, by decide⟩⟩

theorem expandRule_fields : expandRule [] (.mapping fields) = .ok fields := by cbv

theorem ofFragment_fields : Rule.ofFragment [] "accept[0]" (.mapping fields) = .ok rule := by
  have first : Rule.Clause.ofEntry "accept[0]" (.text "title", .text "(?<ep>[0-9])") =
      .ok (.matcher (.titlePattern title)) :=
    Outcome.map_eq_ok_iff.mpr ⟨title, ofText_title, rfl⟩
  have read : Rule.clauses "accept[0]" fields =
      .ok [.matcher (.titlePattern title),
        .gate { selector := "eps", value := .scalar (.int 1) }] := by
    rw [fields, Rule.clauses, first]
    rfl
  rw [Rule.ofFragment, expandRule_fields]
  simp only [Rule.ofFields, read]
  rfl

end FirstEpisode

end ReleaseWatch
