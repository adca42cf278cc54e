import ReleaseWatch.Proofs.Macro.CallGraph
import ReleaseWatch.Proofs.Rule.Meaning

/-!
# A list of values as a choice

A selector with a list of values accepts what one of the values would accept in its place, with
the same info. Fields of entries and what an info holds are compared in different ways, but a list
is a choice in both. There is one difference: a null on its own accepts an entry that lacks the
field, whereas a list never does, so that a null in the list of a field accepts nothing.

What a rule asks is taken apart into what a single selector asks and what the rest of the rule
asks. The rest, to which the groups of the title pattern belong, does not depend on the value of a
selector that is not the title.
-/

namespace ReleaseWatch

namespace Scalar

theorem agrees_null_iff {content : Scalar} : content.agrees .null ↔ content = .null := by
  rw [agrees_iff]
  simp [quantity?]

theorem null_agrees_iff {content : Scalar} : Scalar.null.agrees content ↔ content = .null :=
  agrees_comm.trans agrees_null_iff

end Scalar

namespace Mapping

variable {definitions fields : Mapping} {selector : String} {value : Value}

/-- Once a key is set, a mapping has the key with its new value, and whatever has another key. -/
theorem DistinctKeys.mem_insert_text_iff (distinct : fields.DistinctKeys)
    {entry : Scalar × Value} :
    entry ∈ fields.insert (.text selector) value ↔
      entry = (.text selector, value) ∨ entry ∈ fields ∧ entry.1 ≠ .text selector := by
  induction fields with
  | nil => simp [Mapping.insert]
  | cons first rest ih =>
      obtain ⟨present, old⟩ := first
      rcases List.pairwise_cons.mp distinct with ⟨apart, distinctRest⟩
      by_cases same : present = .text selector
      · subst same
        have others : ∀ other ∈ rest, other.1 ≠ .text selector := by
          intro other other_mem isSelector
          have differs := apart other other_mem
          simp [isSelector] at differs
        rw [Mapping.insert, if_pos (by simp)]
        grind
      · rw [Mapping.insert, if_neg (by simpa [Scalar.agrees_text_iff] using same), List.mem_cons,
          ih distinctRest]
        grind

/-- To set a key to the value that it has changes nothing. -/
theorem DistinctKeys.insert_eq_self (distinct : fields.DistinctKeys)
    (value_mem : (.text selector, value) ∈ fields) :
    fields.insert (.text selector) value = fields := by
  induction fields with
  | nil => simp at value_mem
  | cons first rest ih =>
      obtain ⟨present, old⟩ := first
      rcases List.pairwise_cons.mp distinct with ⟨apart, distinctRest⟩
      rcases List.mem_cons.mp value_mem with same | rest_mem
      · cases same
        rw [Mapping.insert, if_pos (by simp)]
      · rw [Mapping.insert, if_neg (apart _ rest_mem), ih distinctRest rest_mem]

theorem insert_of_not_hasKey {key : Scalar} (absent : fields.hasKey key = false) :
    fields.insert key value = fields ++ [(key, value)] := by
  induction fields with
  | nil => rfl
  | cons first rest ih =>
      rw [← Bool.not_eq_true, hasKey_cons_iff, not_or, Bool.not_eq_true (hasKey rest key)]
        at absent
      rw [Mapping.insert, if_neg absent.1, ih absent.2, List.cons_append]

end Mapping

section NoCalls

open Mapping

variable {definitions fields : Mapping}

/-- Entries that call nothing are set as they are. -/
theorem expandFields_of_no_calls {available expanded : Mapping} {chain : List Scalar}
    (noCalls : ∀ name, ¬definitions.HasCall fields name)
    (distinct : (expanded ++ fields).DistinctKeys) :
    expandFields definitions chain available expanded fields = .ok (expanded ++ fields) := by
  induction fields generalizing expanded with
  | nil => rw [expandFields, List.append_nil]
  | cons first rest ih =>
      obtain ⟨key, value⟩ := first
      have isOwn : definitions.hasKey key = false := by
        rw [← Bool.not_eq_true]
        exact fun defined => noCalls key (hasCall_head defined)
      have absent : expanded.hasKey key = false := by
        rw [← Bool.not_eq_true, hasKey_iff]
        rintro ⟨present, present_mem, same⟩
        exact (List.pairwise_append.mp distinct).2.2 present present_mem _ List.mem_cons_self same
      have noMoreCalls : ∀ name, ¬definitions.HasCall rest name := fun name hasCall =>
        noCalls name (hasCall_cons_iff.mpr (Or.inr hasCall))
      rw [expandFields, if_neg (by simp [isOwn]), insert_of_not_hasKey absent]
      have shifted : expanded ++ (key, value) :: rest =
          expanded ++ [(key, value)] ++ rest := by simp
      rw [shifted] at distinct ⊢
      exact ih noMoreCalls distinct

theorem expandRule_of_no_calls (noCalls : ∀ name, ¬definitions.HasCall fields name)
    (distinct : fields.DistinctKeys) : expandRule definitions (.mapping fields) = .ok fields :=
  expandFields_of_no_calls noCalls (by simpa using distinct)

end NoCalls

namespace Rule

variable {definitions fields : Mapping} {name selector : String} {value old : Value}
  {entry : Entry} {info : Option Info} {rule : Rule}

/-- A fragment makes a rule, and the rule matches an entry with an info. -/
def FragmentMatches (definitions : Mapping) (name : String) (fragment : Value) (entry : Entry)
    (info : Option Info) : Prop :=
  ∃ rule result, ofFragment definitions name fragment = .ok rule ∧
    rule.match? entry = .ok (some result) ∧ result.info = info

theorem DecidedByChecks.matches_iff {outcome : Except Failure (Option RuleMatch)}
    {derived : Option Info} (decided : DecidedByChecks name fields derived outcome) :
    (∃ result, outcome = .ok (some result) ∧ result.info = info) ↔
      derived = info ∧ ChecksPass fields info := by
  by_cases passes : ChecksPass fields derived
  · rcases decided.1 passes with ⟨result, rfl, _, rfl⟩
    constructor
    · rintro ⟨other, same, rfl⟩
      cases same
      exact ⟨rfl, passes⟩
    · rintro ⟨rfl, _⟩
      exact ⟨result, rfl, rfl⟩
  · rw [decided.2 passes]
    constructor
    · rintro ⟨other, same, _⟩
      cases same
    · rintro ⟨rfl, passesStill⟩
      exact absurd passesStill passes

/-- A rule matches with an info exactly if its mapping says so. -/
theorem BuiltFrom.match?_eq_some_iff (built : BuiltFrom name fields rule)
    (distinct : fields.DistinctKeys) (short : ShortNumerals name fields entry) :
    (∃ result, rule.match? entry = .ok (some result) ∧ result.info = info) ↔
      FieldsHold name fields entry ∧ SelectorsBound name fields ∧
      Derives name fields entry info ∧
        ChecksPass fields info := by
  by_cases holds : FieldsHold name fields entry
  swap
  · simp [built.match?_of_not_fieldsHold distinct holds, holds]
  simp only [holds, true_and]
  by_cases bound : SelectorsBound name fields
  · simp only [bound, true_and]
    obtain ⟨derived, derives, decided⟩ : ∃ derived, Derives name fields entry derived ∧
        DecidedByChecks name fields derived (rule.match? entry) := by
      rcases built.match?_of_fieldsHold distinct holds with
        ⟨title, found, asked, searched, matched⟩ | ⟨unasked, matched⟩
      · rcases built.matchFound_of_bound distinct short asked searched bound with
          ⟨made, isMade, decided⟩
        exact ⟨some made, .title asked searched isMade, matched ▸ decided⟩
      · exact ⟨none, .noTitle unasked, matched ▸ built.matchFields_of_bound unasked bound⟩
    rw [decided.matches_iff]
    constructor
    · rintro ⟨rfl, passes⟩
      exact ⟨derives, passes⟩
    · rintro ⟨otherDerives, passes⟩
      exact ⟨derives.unique distinct otherDerives, passes⟩
  · -- with a selector that is not bound there is no match, but a failure
    simp only [bound, false_and, iff_false]
    rintro ⟨result, isMatch, _⟩
    rcases built.match?_of_fieldsHold distinct holds with
      ⟨title, found, asked, searched, matched⟩ | ⟨unasked, matched⟩
    · rcases built.checkGates_of_not_bound entry (isBound_iff distinct asked searched) bound with
        ⟨_, _, _, _, _, failed⟩
      rw [matched, matchFound, failed] at isMatch
      cases isMatch
    · rcases built.checkGates_of_not_bound entry (isBound_nil_iff unasked) bound with
        ⟨_, _, _, _, _, failed⟩
      rw [matched, matchFields, failed] at isMatch
      cases isMatch

/--
What a selector other than the title asks of an entry and of the info that is derived from it.
-/
def SelectorAccepts (name selector : String) (value : Value) (entry : Entry) (info : Option Info) :
    Prop :=
  (∀ field, EntryField.ofSelector? selector = some field →
    FieldHolds name entry field value) ∧
  ∀ key : InfoKey, key.label = selector → ∃ derived, info = some derived ∧
    (derived.get key).Passes value

/-- What the rest of a mapping asks of an entry, apart from the value of one selector. -/
structure RestAccepts (name : String) (fields : Mapping) (selector : String) (entry : Entry)
    (info : Option Info) : Prop where
  readable : ∀ field ∈ fields, field.1 ≠ .text selector →
    ∃ clause, Clause.ofEntry name field = .ok clause
  accepts : ∀ other value, (.text other, value) ∈ fields → other ≠ selector →
    SelectorAccepts name other value entry info
  bound : SelectorsBound name fields
  derives : Derives name fields entry info

section Insert

variable (distinct : fields.DistinctKeys) (untitled : selector ≠ "title")

include distinct untitled

theorem asksForTitle_insert_iff (title : TitlePattern) :
    AsksForTitle name (fields.insert (.text selector) value) title ↔
      AsksForTitle name fields title := by
  simp only [AsksForTitle, distinct.mem_insert_text_iff, Prod.mk.injEq, Scalar.text.injEq]
  grind

theorem derives_insert_iff :
    Derives name (fields.insert (.text selector) value) entry info ↔
      Derives name fields entry info := by
  have sameTitle : ∀ title, AsksForTitle name (fields.insert (.text selector) value) title ↔
      AsksForTitle name fields title := asksForTitle_insert_iff distinct untitled
  constructor
  · rintro (⟨asked, searched, made⟩ | unasked)
    · exact .title ((sameTitle _).mp asked) searched made
    · exact .noTitle fun title asked => unasked title ((sameTitle title).mpr asked)
  · rintro (⟨asked, searched, made⟩ | unasked)
    · exact .title ((sameTitle _).mpr asked) searched made
    · exact .noTitle fun title asked => unasked title ((sameTitle title).mp asked)

theorem selectorsBound_insert_iff (present : (.text selector, old) ∈ fields) :
    SelectorsBound name (fields.insert (.text selector) value) ↔ SelectorsBound name fields := by
  have sameBinds (other : String) :
      Binds name (fields.insert (.text selector) value) other ↔ Binds name fields other := by
    simp only [Binds, asksForTitle_insert_iff distinct untitled]
  simp only [SelectorsBound, sameBinds, distinct.mem_insert_text_iff, Prod.mk.injEq,
    Scalar.text.injEq]
  constructor
  · intro bound other otherValue other_mem unnamed
    by_cases same : other = selector
    · exact bound other value (Or.inl ⟨same, rfl⟩) unnamed
    · exact bound other otherValue (Or.inr ⟨other_mem, by simpa using same⟩) unnamed
  · rintro bound other otherValue (⟨rfl, _⟩ | ⟨other_mem, _⟩) unnamed
    · exact bound other old present unnamed
    · exact bound other otherValue other_mem unnamed

end Insert

/-- The clauses of a mapping can be read exactly if every one of them can. -/
theorem exists_clauses_iff :
    (∃ made, clauses name fields = .ok made) ↔
      ∀ field ∈ fields, ∃ clause, Clause.ofEntry name field = .ok clause := by
  constructor
  · rintro ⟨made, read⟩ field field_mem
    exact exists_clause_of_mem read field_mem
  · intro readable
    induction fields with
    | nil => exact ⟨[], rfl⟩
    | cons first rest ih =>
        rw [List.forall_mem_cons] at readable
        rcases readable.1 with ⟨clause, readFirst⟩
        rcases ih readable.2 with ⟨others, readRest⟩
        exact ⟨clause :: others, by simp [clauses, readFirst, readRest, bind, pure,
          Except.pure]⟩

theorem exists_ofFields_iff (nonempty : fields ≠ []) :
    (∃ rule, ofFields name fields = .ok rule) ↔
      ∀ field ∈ fields, ∃ clause, Clause.ofEntry name field = .ok clause := by
  rw [← exists_clauses_iff, ofFields, if_neg (by simpa using nonempty)]
  simp [Outcome.map_eq_ok_iff]

/-- A selector that is not the title is read whatever its value is. -/
theorem exists_ofEntry (untitled : selector ≠ "title") (value : Value) :
    ∃ clause, Clause.ofEntry name (.text selector, value) = .ok clause := by
  unfold Clause.ofEntry
  split
  · rename_i same
    cases same
    split
    · exact ⟨_, rfl⟩
    · rename_i named
      exact absurd (EntryField.ofSelector?_eq_title_iff.mp named) untitled
    · exact ⟨_, rfl⟩
    · exact ⟨_, rfl⟩
  · rename_i notText same
    exact absurd (congrArg Prod.fst same).symm (notText _)

theorem fieldsHold_and_checksPass_iff :
    FieldsHold name fields entry ∧ ChecksPass fields info ↔
      ∀ selector value, (.text selector, value) ∈ fields →
        SelectorAccepts name selector value entry info := by
  constructor
  · rintro ⟨holds, passes⟩ selector value value_mem
    refine ⟨fun field named => holds selector value field value_mem named, ?_⟩
    rintro key rfl
    exact passes key value value_mem
  · intro accepts
    refine ⟨fun selector value field value_mem named =>
      (accepts selector value value_mem).1 field named, ?_⟩
    exact fun key value value_mem => (accepts key.label value value_mem).2 key rfl

theorem fragmentMatches_iff (noCalls : ∀ callee, ¬definitions.HasCall fields callee)
    (distinct : fields.DistinctKeys) (short : ShortNumerals name fields entry) :
    FragmentMatches definitions name (.mapping fields) entry info ↔
      (∃ rule, ofFields name fields = .ok rule) ∧ SelectorsBound name fields ∧
        Derives name fields entry info ∧
        ∀ selector value, (.text selector, value) ∈ fields →
          SelectorAccepts name selector value entry info := by
  have made : ofFragment definitions name (.mapping fields) = ofFields name fields := by
    rw [ofFragment, expandRule_of_no_calls noCalls distinct]
  rw [FragmentMatches, made, ← fieldsHold_and_checksPass_iff]
  constructor
  · rintro ⟨rule, result, built, isMatch, same⟩
    rcases (builtFrom_of_ofFields built).match?_eq_some_iff distinct short |>.mp
      ⟨result, isMatch, same⟩ with
      ⟨holds, bound, derives, passes⟩
    exact ⟨⟨rule, built⟩, bound, derives, holds, passes⟩
  · rintro ⟨⟨rule, built⟩, bound, derives, holds, passes⟩
    rcases (builtFrom_of_ofFields built).match?_eq_some_iff distinct short |>.mpr
      ⟨holds, bound, derives, passes⟩ with ⟨result, isMatch, same⟩
    exact ⟨rule, result, built, isMatch, same⟩

theorem not_hasCall_insert (noCalls : ∀ callee, ¬definitions.HasCall fields callee)
    (distinct : fields.DistinctKeys) (present : (.text selector, old) ∈ fields)
    (callee : Scalar) :
    ¬definitions.HasCall (fields.insert (.text selector) value) callee := by
  rintro ⟨hasKey, defined⟩
  rcases Mapping.hasKey_iff.mp hasKey with ⟨⟨key, content⟩, entry_mem, same⟩
  apply noCalls callee
  refine ⟨Mapping.hasKey_iff.mpr ?_, defined⟩
  rcases distinct.mem_insert_text_iff.mp entry_mem with isSelector | ⟨other_mem, _⟩
  · cases isSelector
    exact ⟨_, present, same⟩
  · exact ⟨_, other_mem, same⟩

/-- A mapping asks what the rest of it asks, and what one of its selectors does. -/
theorem fragmentMatches_insert_iff (noCalls : ∀ callee, ¬definitions.HasCall fields callee)
    (distinct : fields.DistinctKeys) (untitled : selector ≠ "title")
    (present : (.text selector, old) ∈ fields)
    (short : ShortNumerals name (fields.insert (.text selector) value) entry) :
    FragmentMatches definitions name (.mapping (fields.insert (.text selector) value))
      entry info ↔
      RestAccepts name fields selector entry info ∧
      SelectorAccepts name selector value entry info := by
  have nonempty : fields.insert (.text selector) value ≠ [] :=
    List.ne_nil_of_mem (distinct.mem_insert_text_iff.mpr (Or.inl rfl))
  rw [fragmentMatches_iff (not_hasCall_insert noCalls distinct present) (distinct.insert _ _) short,
    exists_ofFields_iff nonempty, selectorsBound_insert_iff distinct untitled present,
    derives_insert_iff distinct untitled]
  simp only [distinct.mem_insert_text_iff, Prod.mk.injEq, Scalar.text.injEq]
  constructor
  · rintro ⟨readable, bound, derives, accepts⟩
    refine ⟨⟨fun field field_mem other => readable field (Or.inr ⟨field_mem, other⟩), ?_,
      bound, derives⟩, accepts selector value (Or.inl ⟨rfl, rfl⟩)⟩
    exact fun other otherValue other_mem differs =>
      accepts other otherValue (Or.inr ⟨other_mem, by simpa using differs⟩)
  · rintro ⟨rest, selectorAccepts⟩
    refine ⟨?_, rest.bound, rest.derives, ?_⟩
    · rintro field (rfl | ⟨field_mem, other⟩)
      · exact exists_ofEntry untitled value
      · exact rest.readable field field_mem other
    · rintro other otherValue (⟨rfl, rfl⟩ | ⟨other_mem, differs⟩)
      · exact selectorAccepts
      · exact rest.accepts other otherValue other_mem (by simpa using differs)

section Choice

variable {contents : List Scalar}

/-- A field that a list has to hold is there, so it is as an element that is not null. -/
theorem fieldHolds_list_iff {field : EntryField} (untitled : field ≠ .title) :
    FieldHolds name entry field (.list (contents.map .scalar)) ↔
      ∃ content ∈ contents, content ≠ .null ∧
        FieldHolds name entry field (.scalar content) := by
  have single (content : Scalar) :
      FieldHolds name entry field (.scalar content) ↔ (entry.field field).agrees content := by
    unfold FieldHolds
    split
    · exact absurd rfl untitled
    · rename_i same
      cases same
    · exact Iff.rfl
  have listed : FieldHolds name entry field (.list (contents.map .scalar)) ↔
      entry.field field ≠ .null ∧
      ∃ content ∈ contents, (entry.field field).agrees content := by
    unfold FieldHolds
    split
    · exact absurd rfl untitled
    · rename_i same
      cases same
      simp [Value.agreesWith]
    · rename_i noList _
      exact absurd rfl (noList _)
  simp only [listed, single]
  constructor
  · rintro ⟨present, content, content_mem, same⟩
    refine ⟨content, content_mem, ?_, same⟩
    rintro rfl
    exact present (Scalar.agrees_null_iff.mp same)
  · rintro ⟨content, content_mem, notNull, same⟩
    refine ⟨?_, content, content_mem, same⟩
    intro missing
    rw [missing] at same
    exact notNull (Scalar.null_agrees_iff.mp same)

theorem passes_list_scalar_iff {actual : InfoValue} :
    actual.Passes (.list (contents.map .scalar)) ↔
      ∃ content ∈ contents, actual.Passes (.scalar content) := by
  simp [InfoValue.passes_list_iff]

theorem selectorAccepts_of_field {field : EntryField}
    (named : EntryField.ofSelector? selector = some field) (value : Value) :
    SelectorAccepts name selector value entry info ↔ FieldHolds name entry field value := by
  constructor
  · exact fun accepts => accepts.1 field named
  · intro holds
    constructor
    · intro other isField
      rw [named] at isField
      cases isField
      exact holds
    · rintro key rfl
      rw [key.ofSelector?_label] at named
      cases named

theorem selectorAccepts_of_key (key : InfoKey) (value : Value) :
    SelectorAccepts name key.label value entry info ↔
      ∃ derived, info = some derived ∧ (derived.get key).Passes value := by
  constructor
  · exact fun accepts => accepts.2 key rfl
  · intro passes
    constructor
    · intro field isField
      rw [key.ofSelector?_label] at isField
      cases isField
    · intro other same
      rwa [InfoKey.eq_of_label_eq same]

/-- A selector that names neither a field nor anything of an info asks nothing of its value. -/
theorem selectorAccepts_of_neither (unnamed : EntryField.ofSelector? selector = none)
    (noKey : ∀ key : InfoKey, key.label ≠ selector) (value : Value) :
    SelectorAccepts name selector value entry info := by
  constructor
  · intro field isField
    rw [unnamed] at isField
    cases isField
  · exact fun key same => absurd same (noKey key)

/-- What a list asks, one of its elements asks; of a field, null is no such element. -/
theorem selectorAccepts_list_iff (untitled : selector ≠ "title") (nonempty : contents ≠ []) :
    SelectorAccepts name selector (.list (contents.map .scalar)) entry info ↔
      ∃ content ∈ contents, (EntryField.ofSelector? selector ≠ none → content ≠ .null) ∧
        SelectorAccepts name selector (.scalar content) entry info := by
  cases named : EntryField.ofSelector? selector with
  | some field =>
      have fieldUntitled : field ≠ .title := by
        rintro rfl
        exact untitled (EntryField.ofSelector?_eq_title_iff.mp named)
      simp [selectorAccepts_of_field named, fieldHolds_list_iff fieldUntitled]
  | none =>
      simp only [ne_eq, not_true_eq_false, false_implies, true_and]
      by_cases isKey : ∃ key : InfoKey, key.label = selector
      · rcases isKey with ⟨key, rfl⟩
        simp only [selectorAccepts_of_key, passes_list_scalar_iff]
        grind
      · have accepts : ∀ value, SelectorAccepts name selector value entry info :=
          selectorAccepts_of_neither named (not_exists.mp isKey)
        rcases List.exists_mem_of_ne_nil contents nonempty with ⟨content, content_mem⟩
        exact iff_of_true (accepts _) ⟨content, content_mem, accepts _⟩

theorem ShortNumerals.of_list {fields : Mapping} (short : ShortNumerals name fields entry)
    (distinct : fields.DistinctKeys) (untitled : selector ≠ "title")
    (listed : (.text selector, .list (contents.map .scalar)) ∈ fields) {content : Scalar}
    (content_mem : content ∈ contents) :
    ShortNumerals name (fields.insert (.text selector) (.scalar content)) entry where
  captured := by
    intro title found asked
    exact short.captured title found ((asksForTitle_insert_iff distinct untitled title).mp asked)
  checks := by
    intro key value value_mem
    rcases distinct.mem_insert_text_iff.mp value_mem with same | ⟨other_mem, _⟩
    · cases same
      exact Value.hasShortNumerals_of_mem (short.checks key _ listed)
        (List.mem_map_of_mem content_mem)
    · exact short.checks key value other_mem
  written := by
    intro key value value_mem
    rcases distinct.mem_insert_text_iff.mp value_mem with same | ⟨other_mem, _⟩
    · cases same
      exact Value.hasLongInteger_of_mem (short.written key _ listed)
        (List.mem_map_of_mem content_mem)
    · exact short.written key value other_mem

/--
A rule with a list of values for a selector matches an entry exactly if, with one of the values in
the place of the list, it would match the entry, and with the same info. If the selector names a
field, null is not counted among the values.
-/
theorem list_matches_as_elements (noCalls : ∀ callee, ¬definitions.HasCall fields callee)
    (distinct : fields.DistinctKeys) (untitled : selector ≠ "title") (nonempty : contents ≠ [])
    (listed : (.text selector, .list (contents.map .scalar)) ∈ fields)
    (short : ShortNumerals name fields entry) (info : Option Info) :
    FragmentMatches definitions name (.mapping fields) entry info ↔
      ∃ content ∈ contents, (EntryField.ofSelector? selector ≠ none → content ≠ .null) ∧
        FragmentMatches definitions name
          (.mapping (fields.insert (.text selector) (.scalar content))) entry info := by
  have unchanged := distinct.insert_eq_self listed
  have single : ∀ content ∈ contents,
      (FragmentMatches definitions name
          (.mapping (fields.insert (.text selector) (.scalar content))) entry info ↔
        RestAccepts name fields selector entry info ∧
          SelectorAccepts name selector (.scalar content) entry info) := fun content content_mem =>
    fragmentMatches_insert_iff noCalls distinct untitled listed
      (short.of_list distinct untitled listed content_mem)
  calc FragmentMatches definitions name (.mapping fields) entry info
      ↔ RestAccepts name fields selector entry info ∧
          SelectorAccepts name selector (.list (contents.map .scalar)) entry info := by
        conv_lhs => rw [← unchanged]
        rw [← unchanged] at short
        exact fragmentMatches_insert_iff noCalls distinct untitled listed short
    _ ↔ ∃ content ∈ contents, (EntryField.ofSelector? selector ≠ none →
      content ≠ .null) ∧
          RestAccepts name fields selector entry info ∧
            SelectorAccepts name selector (.scalar content) entry info := by
        rw [selectorAccepts_list_iff untitled nonempty]
        grind
    _ ↔ _ := by
        constructor
        · rintro ⟨content, content_mem, counts, accepts⟩
          exact ⟨content, content_mem, counts, (single content content_mem).mpr accepts⟩
        · rintro ⟨content, content_mem, counts, isMatch⟩
          exact ⟨content, content_mem, counts, (single content content_mem).mp isMatch⟩

end Choice

end Rule

namespace OneOfSeveral

open FirstEpisode (title entry info)

/-- A number that the entry does not have, a text that begins with the one that it has, and null. -/
def contents : List Scalar :=
  [.int 7, .text "+01 or so", .null]

/-- A rule for releases that cover one of several episodes. -/
def fields : Mapping :=
  [(.text "title", .text "(?<ep>[0-9])"), (.text "eps", .list (contents.map .scalar))]

/-- The rule with the text alone. -/
def rule : Rule where
  name := "accept[0]"
  matchers := [.titlePattern title]
  gates := [{ selector := "eps", value := .text "+01 or so" }]
  infoChecks := [(.eps, .text "+01 or so")]
  source := fields.insert (.text "eps") (.text "+01 or so")

/-- The match of the rule with the text alone. -/
def found : RuleMatch where
  rule := "accept[0]"
  reason := "title ~ /(?P<ep>[0-9])/; eps=+01 or so"
  info := some info

theorem insert_text : fields.insert (.text "eps") (.text "+01 or so") =
    [(.text "title", .text "(?<ep>[0-9])"), (.text "eps", .text "+01 or so")] := rfl

theorem ofFragment_text :
    Rule.ofFragment [] "accept[0]" (.mapping (fields.insert (.text "eps") (.text "+01 or so"))) =
      .ok rule := by
  have expanded : expandRule [] (.mapping (fields.insert (.text "eps") (.text "+01 or so"))) =
      .ok (fields.insert (.text "eps") (.text "+01 or so")) := by cbv
  have first : Rule.Clause.ofEntry "accept[0]" (.text "title", .text "(?<ep>[0-9])") =
      .ok (.matcher (.titlePattern title)) :=
    Outcome.map_eq_ok_iff.mpr ⟨title, FirstEpisode.ofText_title, rfl⟩
  have read : Rule.clauses "accept[0]" (fields.insert (.text "eps") (.text "+01 or so")) =
      .ok [.matcher (.titlePattern title),
        .gate { selector := "eps", value := .text "+01 or so" }] := by
    rw [insert_text, Rule.clauses, first]
    rfl
  rw [Rule.ofFragment, expanded]
  simp only [Rule.ofFields, read]
  rfl

theorem fragmentMatches_text : Rule.FragmentMatches [] "accept[0]"
    (.mapping (fields.insert (.text "eps") (.text "+01 or so"))) entry (some info) := by
  have isMatch : rule.match? entry = .ok (some found) := by cbv
  exact ⟨rule, found, ofFragment_text, isMatch, rfl⟩

theorem not_hasCall (callee : Scalar) : ¬Mapping.HasCall [] fields callee := by
  rintro ⟨_, defined⟩
  cases defined

theorem distinctKeys_fields : fields.DistinctKeys := by
  simp [fields, Mapping.DistinctKeys]

theorem hasShortNumeral_text : HasShortNumeral "+01 or so" := by
  have read : Numeral.leading? "+01 or so".toList =
      some { negative := false, digits := ['0', '1'] } := by cbv
  intro numeral isNumeral
  rw [read] at isNumeral
  cases isNumeral
  decide

theorem hasShortNumerals_contents : (Value.list (contents.map .scalar)).HasShortNumerals where
  texts := by
    intro text offers
    cases offers with
    | item item_mem offers =>
        rcases List.mem_map.mp item_mem with ⟨content, content_mem, rfl⟩
        cases offers
        have isText : text = "+01 or so" := by simpa [contents] using content_mem
        exact isText ▸ hasShortNumeral_text
  mappings := by
    intro fields offers
    cases offers with
    | item item_mem offers =>
        rcases List.mem_map.mp item_mem with ⟨content, _, rfl⟩
        cases offers

theorem eq_of_mem_fields {key : InfoKey} {value : Value}
    (field_mem : (.text key.label, value) ∈ fields) :
    value = .list (contents.map .scalar) := by
  have other := key.ofSelector?_label
  simp only [fields, List.mem_cons, Prod.mk.injEq, Scalar.text.injEq, List.not_mem_nil,
    or_false] at field_mem
  rcases field_mem with ⟨named, _⟩ | ⟨_, same⟩
  · rw [named] at other
    cases other
  · exact same

theorem shortNumerals : Rule.ShortNumerals "accept[0]" fields entry where
  captured := by
    intro other otherFound asked
    apply FirstEpisode.shortNumerals.captured other otherFound
    simpa [Rule.AsksForTitle, fields, FirstEpisode.fields] using asked
  checks := by
    intro key value field_mem
    rw [eq_of_mem_fields field_mem]
    exact hasShortNumerals_contents
  written := by
    intro key value field_mem
    rw [eq_of_mem_fields field_mem]
    decide +kernel

/-- The number of the entry is among those that the rule lists, so the entry matches. -/
theorem list_matches_as_elements_of_oneOfSeveral :
    (∀ callee, ¬Mapping.HasCall [] fields callee) ∧ fields.DistinctKeys ∧
      "eps" ≠ "title" ∧ contents ≠ [] ∧
    (.text "eps", .list (contents.map .scalar)) ∈ fields ∧
    Rule.ShortNumerals "accept[0]" fields entry ∧
    Rule.FragmentMatches [] "accept[0]" (.mapping fields) entry (some info) := by
  have listed : (.text "eps", .list (contents.map .scalar)) ∈ fields := by simp [fields]
  have untitled : "eps" ≠ "title" := by decide
  have nonempty : contents ≠ [] := by simp [contents]
  have choice :=
    Rule.list_matches_as_elements not_hasCall distinctKeys_fields untitled nonempty listed
    shortNumerals (some info)
  refine ⟨not_hasCall, distinctKeys_fields, untitled, nonempty, listed, shortNumerals,
    choice.mpr ?_⟩
  exact ⟨.text "+01 or so", by simp [contents], fun named => absurd rfl named,
    fragmentMatches_text⟩

end OneOfSeveral

namespace MissingComment

/-- An entry without a comment. -/
def entry : Entry := {}

/-- A rule for entries without a comment. -/
def rule : Rule where
  name := "accept[0]"
  matchers := [.equal "comment" .comment .null]
  gates := []
  infoChecks := []
  source := [(.text "comment", .null)]

/-- The same rule, with null as the only element of a list. -/
def listRule : Rule where
  name := "accept[0]"
  matchers := [.anyOf "comment" .comment [.null]]
  gates := []
  infoChecks := []
  source := [(.text "comment", .list [.null])]

theorem ofFragment_null :
    Rule.ofFragment [] "accept[0]" (.mapping [(.text "comment", .null)]) = .ok rule := by
  have expanded : expandRule [] (.mapping [(.text "comment", .null)]) =
      .ok [(.text "comment", .null)] := by cbv
  rw [Rule.ofFragment, expanded]
  rfl

theorem ofFragment_list :
    Rule.ofFragment [] "accept[0]" (.mapping [(.text "comment", .list [.null])]) =
      .ok listRule := by
  have expanded : expandRule [] (.mapping [(.text "comment", .list [.null])]) =
      .ok [(.text "comment", .list [.null])] := by cbv
  rw [Rule.ofFragment, expanded]
  rfl

/--
A null on its own accepts an entry that lacks the
field, and a list with nothing but null does not.
-/
theorem null_in_list_is_refused :
    Rule.FragmentMatches [] "accept[0]" (.mapping [(.text "comment", .null)]) entry none ∧
    ∀ info, ¬Rule.FragmentMatches [] "accept[0]" (.mapping [(.text "comment", .list [.null])])
      entry info := by
  constructor
  · exact ⟨rule, { rule := "accept[0]", reason := "fields", info := none }, ofFragment_null, rfl,
      rfl⟩
  · rintro info ⟨built, result, made, isMatch, _⟩
    rw [ofFragment_list] at made
    cases made
    have refused : listRule.match? entry = .ok none := rfl
    rw [refused] at isMatch
    cases isMatch

end MissingComment

end ReleaseWatch
