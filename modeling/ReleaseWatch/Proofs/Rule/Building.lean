import ReleaseWatch.Proofs.Outcome
import ReleaseWatch.Rule.Matching

/-!
# What a rule is built from

Building a rule sorts the keys of its mapping. A key that names a field of entries becomes a
matcher, any other key becomes a gate, and a key that names something of an info becomes a check
as well. `Rule.FieldHolds` says what a field selector asks of an entry in terms of the mapping
alone, and `Rule.BuiltFrom` collects all that is used of a built rule, so that nothing else
depends on how the keys are sorted.
-/

namespace ReleaseWatch

namespace EntryField

theorem ofSelector?_eq_title_iff {selector : String} :
    ofSelector? selector = some .title ↔ selector = "title" := by
  constructor
  · intro named
    unfold ofSelector? at named
    split at named <;> simp_all
  · rintro rfl
    rfl

end EntryField

theorem InfoKey.ofSelector?_label (key : InfoKey) : EntryField.ofSelector? key.label = none := by
  cases key <;> rfl

theorem InfoKey.ofLabel?_eq_some_iff {text : String} {key : InfoKey} :
    InfoKey.ofLabel? text = some key ↔ text = key.label := by
  constructor
  · intro named
    have labelled := List.find?_some named
    rw [beq_iff_eq] at labelled
    exact labelled.symm
  · rintro rfl
    cases key <;> rfl

theorem InfoKey.eq_of_label_eq {key other : InfoKey} (same : key.label = other.label) :
    key = other := by
  have named : InfoKey.ofLabel? key.label = some key := InfoKey.ofLabel?_eq_some_iff.mpr rfl
  rw [InfoKey.ofLabel?_eq_some_iff.mpr same] at named
  exact (Option.some.inj named).symm

namespace Matcher

/-- Whether an entry is as a matcher asks, a pattern being searched for in the title. -/
def Accepts (entry : Entry) : Matcher → Prop
  | .titlePattern title => ∃ found, entry.title.bind title.search? = some found
  | matcher => matcher.holds entry

theorem holds_of_accepts {entry : Entry} {matcher : Matcher} (accepts : matcher.Accepts entry) :
    matcher.holds entry := by
  cases matcher with
  | titlePattern title => rfl
  | anyOf selector field values => exact accepts
  | equal selector field value => exact accepts

end Matcher

namespace Rule

/--
What the selector of a field asks of an entry: a text for the title is a pattern that is found
in it, a list has to hold the value of the field, which must not be missing, and any other
value has to be the same.
-/
def FieldHolds (rule : String) (entry : Entry) : EntryField → Value → Prop
  | .title, .scalar (.text pattern) =>
      ∃ title text found, TitlePattern.ofText pattern rule = .ok title ∧
        entry.title = some text ∧
        title.search? text = some found
  | field, .list values =>
      entry.field field ≠ .null ∧ ∃ value ∈ values, value.agreesWith (entry.field field)
  | field, value => value.agreesWith (entry.field field)

/-- The title pattern that a mapping asks for. -/
def AsksForTitle (rule : String) (fields : Mapping) (title : TitlePattern) : Prop :=
  ∃ pattern, (.text "title", .text pattern) ∈ fields ∧
    TitlePattern.ofText pattern rule = .ok title

namespace Clause

/-- The ways in which a key becomes a clause. -/
inductive Reads (rule : String) : Scalar × Value → Clause → Prop
  | gate {selector : String} {value : Value} (other : EntryField.ofSelector? selector = none) :
      Reads rule (.text selector, value) (.gate { selector, value })
  | titlePattern {pattern : String} {title : TitlePattern}
      (read : TitlePattern.ofText pattern rule = .ok title) :
      Reads rule (.text "title", .text pattern) (.matcher (.titlePattern title))
  | anyOf {selector : String} {field : EntryField} {values : List Value}
      (named : EntryField.ofSelector? selector = some field) :
      Reads rule (.text selector, .list values) (.matcher (.anyOf selector field values))
  | equal {selector : String} {field : EntryField} {value : Value}
      (named : EntryField.ofSelector? selector = some field)
      (noPattern : ∀ pattern, field = .title → value ≠ .text pattern)
      (noList : ∀ values, value ≠ .list values) :
      Reads rule (.text selector, value) (.matcher (.equal selector field value))

theorem reads_of_ofEntry {rule : String} {entry : Scalar × Value} {clause : Clause}
    (made : ofEntry rule entry = .ok clause) : Reads rule entry clause := by
  obtain ⟨key, value⟩ := entry
  unfold ofEntry at made
  split at made
  · rename_i selector value same
    cases same
    split at made
    · rename_i value other
      cases made
      exact .gate other
    · rename_i pattern named
      rcases Outcome.map_eq_ok_iff.mp made with ⟨title, read, rfl⟩
      rw [EntryField.ofSelector?_eq_title_iff.mp named]
      exact .titlePattern read
    · rename_i field values named
      cases made
      exact .anyOf named
    · rename_i field named noPattern noList
      cases made
      exact .equal named (fun pattern isTitle isPattern => noPattern pattern isPattern isTitle)
        noList
  · cases made

/-- A matcher accepts an entry exactly if the field holds. -/
theorem Reads.accepts_iff {rule selector : String} {value : Value} {matcher : Matcher}
    (reads : Reads rule (.text selector, value) (.matcher matcher)) {field : EntryField}
    (named : EntryField.ofSelector? selector = some field) (entry : Entry) :
    matcher.Accepts entry ↔ FieldHolds rule entry field value := by
  cases reads with
  | @titlePattern pattern title read =>
      cases named
      constructor
      · rintro ⟨found, searched⟩
        rcases Option.bind_eq_some_iff.mp searched with ⟨text, given, searched⟩
        exact ⟨title, text, found, read, given, searched⟩
      · rintro ⟨title', text, found, read', given, searched⟩
        rw [read] at read'
        cases read'
        exact ⟨found, Option.bind_eq_some_iff.mpr ⟨text, given, searched⟩⟩
  | @anyOf _ field' values named' =>
      rw [named] at named'
      cases named'
      simp [Matcher.Accepts, Matcher.holds, FieldHolds]
  | @equal _ field' _ named' noPattern noList =>
      rw [named] at named'
      cases named'
      unfold FieldHolds
      split
      · exact absurd rfl (noPattern _ rfl)
      · exact absurd rfl (noList _)
      · exact Iff.rfl

end Clause

theorem mem_clauses_iff {rule : String} {fields : Mapping} {made : List Clause}
    (read : clauses rule fields = .ok made) (clause : Clause) :
    clause ∈ made ↔ ∃ field ∈ fields, Clause.ofEntry rule field = .ok clause := by
  induction fields generalizing made with
  | nil =>
      cases read
      simp
  | cons first rest ih =>
      rcases Outcome.bind_eq_ok_iff.mp read with ⟨clause', madeFirst, readRest⟩
      rcases Outcome.bind_eq_ok_iff.mp readRest with ⟨others, madeOthers, done⟩
      cases done
      simp [ih madeOthers, madeFirst, eq_comm]

theorem exists_clause_of_mem {rule : String} {fields : Mapping} {made : List Clause}
    (read : clauses rule fields = .ok made) {field : Scalar × Value}
    (field_mem : field ∈ fields) :
    ∃ clause, Clause.ofEntry rule field = .ok clause := by
  induction fields generalizing made with
  | nil => simp at field_mem
  | cons first rest ih =>
      rcases Outcome.bind_eq_ok_iff.mp read with ⟨clause', madeFirst, readRest⟩
      rcases Outcome.bind_eq_ok_iff.mp readRest with ⟨others, madeOthers, _⟩
      rcases List.mem_cons.mp field_mem with rfl | rest_mem
      · exact ⟨clause', madeFirst⟩
      · exact ih madeOthers rest_mem

/-- The parts of a rule, in terms of the mapping that it was built from. -/
structure BuiltFrom (name : String) (fields : Mapping) (rule : Rule) : Prop where
  name_eq : rule.name = name
  readable : ∀ field ∈ fields, ∃ clause, Clause.Reads name field clause ∧
    (∀ matcher, clause = .matcher matcher → matcher ∈ rule.matchers) ∧
    (∀ gate, clause = .gate gate → gate ∈ rule.gates)
  matcher_reads : ∀ matcher ∈ rule.matchers, ∃ field ∈ fields,
    Clause.Reads name field (.matcher matcher)
  gate_reads : ∀ gate ∈ rule.gates, ∃ field ∈ fields, Clause.Reads name field (.gate gate)
  mem_infoChecks_iff : ∀ key value,
    (key, value) ∈ rule.infoChecks ↔ (.text key.label, value) ∈ fields

theorem mem_infoChecks_iff_of_fields {fields : Mapping} {key : InfoKey} {value : Value} :
    (key, value) ∈ fields.filterMap infoCheck? ↔ (.text key.label, value) ∈ fields := by
  rw [List.mem_filterMap]
  constructor
  · rintro ⟨⟨selector, value'⟩, field_mem, check⟩
    unfold infoCheck? at check
    split at check
    · rename_i same
      cases same
      rcases Option.map_eq_some_iff.mp check with ⟨key', named, same⟩
      cases same
      rw [← InfoKey.ofLabel?_eq_some_iff.mp named]
      exact field_mem
    · cases check
  · intro field_mem
    have named : InfoKey.ofLabel? key.label = some key := InfoKey.ofLabel?_eq_some_iff.mpr rfl
    exact ⟨_, field_mem, by simp [infoCheck?, named]⟩

theorem builtFrom_of_ofFields {name : String} {fields : Mapping} {rule : Rule}
    (built : ofFields name fields = .ok rule) : BuiltFrom name fields rule := by
  unfold ofFields at built
  split at built
  · cases built
  rcases Outcome.map_eq_ok_iff.mp built with ⟨made, read, rfl⟩
  refine ⟨rfl, ?_, ?_, ?_, fun key value => mem_infoChecks_iff_of_fields⟩
  · intro field field_mem
    rcases exists_clause_of_mem read field_mem with ⟨clause, madeClause⟩
    have clause_mem := (mem_clauses_iff read clause).mpr ⟨field, field_mem, madeClause⟩
    refine ⟨clause, Clause.reads_of_ofEntry madeClause, ?_, ?_⟩
    · rintro matcher rfl
      exact List.mem_filterMap.mpr ⟨_, clause_mem, rfl⟩
    · rintro gate rfl
      exact List.mem_filterMap.mpr ⟨_, clause_mem, rfl⟩
  · intro matcher matcher_mem
    rcases List.mem_filterMap.mp matcher_mem with ⟨clause, clause_mem, isMatcher⟩
    cases clause with
    | gate gate => cases isMatcher
    | matcher found =>
        cases isMatcher
        rcases (mem_clauses_iff read _).mp clause_mem with ⟨field, field_mem, madeClause⟩
        exact ⟨field, field_mem, Clause.reads_of_ofEntry madeClause⟩
  · intro gate gate_mem
    rcases List.mem_filterMap.mp gate_mem with ⟨clause, clause_mem, isGate⟩
    cases clause with
    | matcher found => cases isGate
    | gate found =>
        cases isGate
        rcases (mem_clauses_iff read _).mp clause_mem with ⟨field, field_mem, madeClause⟩
        exact ⟨field, field_mem, Clause.reads_of_ofEntry madeClause⟩

namespace BuiltFrom

variable {name : String} {fields : Mapping} {rule : Rule}

/-- All matchers accept an entry exactly if every field selector of the mapping holds. -/
theorem accepts_iff (built : BuiltFrom name fields rule) (entry : Entry) :
    (∀ matcher ∈ rule.matchers, matcher.Accepts entry) ↔
      ∀ selector value field, (.text selector, value) ∈ fields →
        EntryField.ofSelector? selector = some field → FieldHolds name entry field value := by
  constructor
  · intro accepts selector value field field_mem named
    rcases built.readable _ field_mem with ⟨clause, reads, matcher_mem, _⟩
    cases clause with
    | gate gate =>
        cases reads with
        | gate other => simp [named] at other
    | matcher matcher =>
        exact (reads.accepts_iff named entry).mp (accepts matcher (matcher_mem _ rfl))
  · intro holds matcher matcher_mem
    rcases built.matcher_reads matcher matcher_mem with ⟨⟨key, value⟩, field_mem, reads⟩
    obtain ⟨selector, field, rfl, named⟩ : ∃ selector field, key = .text selector ∧
        EntryField.ofSelector? selector = some field := by
      cases reads with
      | titlePattern read => exact ⟨"title", .title, rfl, rfl⟩
      | anyOf named => exact ⟨_, _, rfl, named⟩
      | equal named => exact ⟨_, _, rfl, named⟩
    exact (reads.accepts_iff named entry).mpr (holds selector value field field_mem named)

theorem titlePattern_mem_iff (built : BuiltFrom name fields rule) (title : TitlePattern) :
    .titlePattern title ∈ rule.matchers ↔ AsksForTitle name fields title := by
  constructor
  · intro matcher_mem
    rcases built.matcher_reads _ matcher_mem with ⟨field, field_mem, reads⟩
    cases reads with
    | titlePattern read => exact ⟨_, field_mem, read⟩
  · rintro ⟨pattern, field_mem, read⟩
    rcases built.readable _ field_mem with ⟨clause, reads, matcher_mem, _⟩
    cases reads with
    | gate other => cases other
    | titlePattern read' =>
        rw [read] at read'
        cases read'
        exact matcher_mem _ rfl
    | equal named noPattern => exact absurd rfl (noPattern pattern (by cases named; rfl))

theorem mem_gates_iff (built : BuiltFrom name fields rule) (selector : String) :
    (∃ gate ∈ rule.gates, gate.selector = selector) ↔
      EntryField.ofSelector? selector = none ∧ ∃ value, (.text selector, value) ∈ fields := by
  constructor
  · rintro ⟨gate, gate_mem, rfl⟩
    rcases built.gate_reads gate gate_mem with ⟨field, field_mem, reads⟩
    cases reads with
    | gate other => exact ⟨other, _, field_mem⟩
  · rintro ⟨other, value, field_mem⟩
    rcases built.readable _ field_mem with ⟨clause, reads, _, gate_mem⟩
    cases reads with
    | gate => exact ⟨_, gate_mem _ rfl, rfl⟩
    | titlePattern read => cases other
    | anyOf named => simp [named] at other
    | equal named => simp [named] at other

end BuiltFrom

end Rule

end ReleaseWatch
