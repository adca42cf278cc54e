import Mathlib.Logic.Relation
import ReleaseWatch.Proofs.Value.Mapping
import ReleaseWatch.Settings.Basic

/-!
# Annotations mean nothing

A document is clean if no mapping in it has an explanation and no list in it has a sample. What is
left of a document without its annotations is clean, and a clean document is left as it is.

An annotation may be added at any depth, in any place of a mapping or list. Whether an element is
dropped is read off the element before anything is dropped from it, so that an annotation inside
the mark of a sample could make the element one; there is none added there. Each single annotation
leaves the marks as they are and disappears with the rest, and so does any number of them. The
settings are read from what is left, so that they are the same.
-/

namespace ReleaseWatch

namespace Value

theorem sizeOf_lt_of_mem {fields : Mapping} {entry : Scalar × Value}
    (entry_mem : entry ∈ fields) :
    sizeOf entry.2 < sizeOf fields := by
  have smaller := List.sizeOf_lt_of_mem entry_mem
  obtain ⟨key, value⟩ := entry
  rw [Prod.mk.sizeOf_spec] at smaller
  change sizeOf value < _
  omega

/-- What holds of a value whenever it holds of all its parts holds of every value. -/
@[elab_as_elim]
theorem induction_on_parts {motive : Value → Prop}
    (scalar : ∀ content, motive (.scalar content))
    (list : ∀ items : List Value, (∀ item ∈ items, motive item) → motive (.list items))
    (mapping : ∀ fields : Mapping, (∀ entry ∈ fields, motive entry.2) →
      motive (.mapping fields)) :
    ∀ value, motive value
  | .scalar content => scalar content
  | .list items => list items fun item _ => induction_on_parts scalar list mapping item
  | .mapping fields => mapping fields fun entry entry_mem =>
      have := sizeOf_lt_of_mem entry_mem
      induction_on_parts scalar list mapping entry.2
termination_by value => sizeOf value

section Clean

/-- A value is another one, or stands at any depth in it. -/
inductive Occurs (part : Value) : Value → Prop
  | here : Occurs part part
  | inItem {item : Value} {items : List Value} (item_mem : item ∈ items)
    (inside : Occurs part item) :
      Occurs part (.list items)
  | inField {entry : Scalar × Value} {fields : Mapping} (entry_mem : entry ∈ fields)
      (inside : Occurs part entry.2) : Occurs part (.mapping fields)

/-- No mapping at any depth has an explanation, and no list at any depth has a sample. -/
structure IsClean (document : Value) : Prop where
  unexplained : ∀ fields : Mapping, Occurs (.mapping fields) document →
    ¬fields.hasKey (.text "explanation")
  unsampled : ∀ items : List Value, Occurs (.list items) document →
    ∀ item ∈ items, ¬item.isSample

theorem isClean_scalar (content : Scalar) : IsClean (.scalar content) where
  unexplained _ occurs := by cases occurs
  unsampled _ occurs := by cases occurs

theorem isClean_list_iff {items : List Value} :
    IsClean (.list items) ↔ ∀ item ∈ items, ¬item.isSample ∧ item.IsClean := by
  constructor
  · intro clean item item_mem
    refine ⟨clean.unsampled items .here item item_mem, ?_, ?_⟩
    · exact fun fields occurs => clean.unexplained fields (.inItem item_mem occurs)
    · exact fun inner occurs => clean.unsampled inner (.inItem item_mem occurs)
  · intro clean
    constructor
    · rintro fields (_ | ⟨item_mem, inside⟩)
      exact (clean _ item_mem).2.unexplained fields inside
    · rintro inner (_ | ⟨item_mem, inside⟩)
      · exact fun item item_mem => (clean item item_mem).1
      · exact (clean _ item_mem).2.unsampled inner inside

theorem isClean_mapping_iff {fields : Mapping} :
    IsClean (.mapping fields) ↔
      ∀ entry ∈ fields, entry.1 ≠ .text "explanation" ∧ entry.2.IsClean := by
  constructor
  · intro clean entry entry_mem
    refine ⟨?_, ?_, ?_⟩
    · intro isExplanation
      exact clean.unexplained fields .here
        (Mapping.hasKey_text_iff.mpr ⟨entry, entry_mem, isExplanation⟩)
    · exact fun inner occurs => clean.unexplained inner (.inField entry_mem occurs)
    · exact fun items occurs => clean.unsampled items (.inField entry_mem occurs)
  · intro clean
    constructor
    · rintro inner (_ | _ | ⟨entry_mem, inside⟩)
      · intro explained
        obtain ⟨entry, entry_mem, isExplanation⟩ := Mapping.hasKey_text_iff.mp explained
        exact (clean entry entry_mem).1 isExplanation
      · exact (clean _ entry_mem).2.unexplained inner inside
    · rintro items (_ | _ | ⟨entry_mem, inside⟩)
      exact (clean _ entry_mem).2.unsampled items inside

end Clean

section Removal

variable {items : List Value} {fields : Mapping} {value : Value}

theorem itemsWithoutAnnotations_eq_map (items : List Value) :
    itemsWithoutAnnotations items = (items.filter (!·.isSample)).map withoutAnnotations := by
  induction items with
  | nil => rfl
  | cons item rest inductionHypothesis =>
      rw [itemsWithoutAnnotations, inductionHypothesis]
      cases marked : item.isSample <;> simp [marked]

theorem fieldsWithoutAnnotations_eq_map (fields : Mapping) :
    fieldsWithoutAnnotations fields =
      (fields.filter (·.1 ≠ .text "explanation")).map
        fun entry => (entry.1, entry.2.withoutAnnotations) := by
  induction fields with
  | nil => rfl
  | cons entry rest inductionHypothesis =>
      rw [fieldsWithoutAnnotations, inductionHypothesis]
      by_cases isExplanation : entry.1 = .text "explanation" <;> simp [isExplanation]

theorem itemsWithoutAnnotations_append (first second : List Value) :
    itemsWithoutAnnotations (first ++ second) =
      itemsWithoutAnnotations first ++ itemsWithoutAnnotations second := by
  simp [itemsWithoutAnnotations_eq_map]

theorem fieldsWithoutAnnotations_append (first second : Mapping) :
    fieldsWithoutAnnotations (first ++ second) =
      fieldsWithoutAnnotations first ++ fieldsWithoutAnnotations second := by
  simp [fieldsWithoutAnnotations_eq_map]

/-- What counts as true without its annotations counts as true with them. -/
theorem isTruthy_of_withoutAnnotations (isTrue : value.withoutAnnotations.isTruthy) :
    value.isTruthy := by
  cases value with
  | scalar content => exact isTrue
  | list items =>
      cases items with
      | nil => exact isTrue
      | cons item rest => rfl
  | mapping fields =>
      cases fields with
      | nil => exact isTrue
      | cons entry rest => rfl

/-- A key other than that of the explanations keeps its value, up to the annotations in it. -/
theorem find?_fieldsWithoutAnnotations {name : String} (kept : name ≠ "explanation")
    (fields : Mapping) :
    Mapping.find? (fieldsWithoutAnnotations fields) (.text name) =
      (fields.find? (.text name)).map withoutAnnotations := by
  induction fields with
  | nil => rfl
  | cons entry rest inductionHypothesis =>
      rw [fieldsWithoutAnnotations, Mapping.find?_cons]
      split
      · rename_i isExplanation
        rw [inductionHypothesis, isExplanation, Scalar.text_agrees_text, if_neg]
        simpa using kept.symm
      · rw [Mapping.find?_cons, inductionHypothesis]
        split <;> rfl

theorem get_fieldsWithoutAnnotations {name : String} (kept : name ≠ "explanation")
    (fields : Mapping) :
    Mapping.get (fieldsWithoutAnnotations fields) name = (fields.get name).withoutAnnotations := by
  rw [Mapping.get, find?_fieldsWithoutAnnotations kept, Mapping.get]
  cases fields.find? (.text name) <;> rfl

theorem isSample_of_withoutAnnotations (marked : value.withoutAnnotations.isSample) :
    value.isSample := by
  cases value with
  | scalar content => exact marked
  | list items => exact marked
  | mapping fields =>
      rw [withoutAnnotations, isSample, get_fieldsWithoutAnnotations (by decide)] at marked
      exact isTruthy_of_withoutAnnotations marked

theorem isClean_withoutAnnotations (document : Value) : document.withoutAnnotations.IsClean := by
  induction document using induction_on_parts with
  | scalar content => exact isClean_scalar content
  | list items areClean =>
      rw [withoutAnnotations, isClean_list_iff, itemsWithoutAnnotations_eq_map]
      simp only [List.forall_mem_map, List.mem_filter]
      rintro item ⟨item_mem, unmarked⟩
      refine ⟨fun marked => ?_, areClean item item_mem⟩
      simp [isSample_of_withoutAnnotations marked] at unmarked
  | mapping fields areClean =>
      rw [withoutAnnotations, isClean_mapping_iff, fieldsWithoutAnnotations_eq_map]
      simp only [List.forall_mem_map, List.mem_filter]
      rintro entry ⟨entry_mem, notExplanation⟩
      exact ⟨by simpa using notExplanation, areClean entry entry_mem⟩

theorem withoutAnnotations_eq_self {document : Value} (clean : document.IsClean) :
    document.withoutAnnotations = document := by
  induction document using induction_on_parts with
  | scalar content => rfl
  | list items areKept =>
      rw [isClean_list_iff] at clean
      have allStay : items.filter (!·.isSample) = items :=
        List.filter_eq_self.mpr fun item item_mem => by simpa using (clean item item_mem).1
      rw [withoutAnnotations, itemsWithoutAnnotations_eq_map, allStay]
      have unchanged : items.map withoutAnnotations = items.map id :=
        List.map_congr_left fun item item_mem => areKept item item_mem (clean item item_mem).2
      rw [unchanged, List.map_id]
  | mapping fields areKept =>
      rw [isClean_mapping_iff] at clean
      have allStay : fields.filter (·.1 ≠ .text "explanation") = fields :=
        List.filter_eq_self.mpr fun entry entry_mem => by simpa using (clean entry entry_mem).1
      rw [withoutAnnotations, fieldsWithoutAnnotations_eq_map, allStay]
      have unchanged : fields.map (fun entry => (entry.1, entry.2.withoutAnnotations)) =
          fields.map id := List.map_congr_left fun entry entry_mem => by
          rw [areKept entry entry_mem (clean entry entry_mem).2, id]
      rw [unchanged, List.map_id]

end Removal

section Addition

/-- One annotation is added to a document. -/
inductive AddsAnnotation : (document annotated : Value) → Prop
  | explanation (before after : Mapping) (content : Value) :
      AddsAnnotation (.mapping (before ++ after))
        (.mapping (before ++ (.text "explanation", content) :: after))
  | sample (before after : List Value) {fields : Mapping}
    (marked : (fields.get "sample_entry").isTruthy) :
      AddsAnnotation (.list (before ++ after)) (.list (before ++ .mapping fields :: after))
  | inItem (before after : List Value) {item annotated : Value}
    (inside : AddsAnnotation item annotated) :
      AddsAnnotation (.list (before ++ item :: after)) (.list (before ++ annotated :: after))
  | inField (before after : Mapping) {key : Scalar} {value annotated : Value}
      (notMark : key ≠ .text "sample_entry") (inside : AddsAnnotation value annotated) :
      AddsAnnotation (.mapping (before ++ (key, value) :: after))
        (.mapping (before ++ (key, annotated) :: after))

variable {document annotated : Value}

namespace AddsAnnotation

/-- An added annotation neither makes a sample nor unmakes one. -/
theorem isSample_eq (adds : AddsAnnotation document annotated) :
    annotated.isSample = document.isSample := by
  cases adds with
  | explanation before after content =>
      simp [isSample, Mapping.get, Mapping.find?_append, Mapping.find?_cons]
  | sample | inItem => rfl
  | inField before after notMark inside =>
      simp [isSample, Mapping.get, Mapping.find?_append, Mapping.find?_cons, Scalar.agrees_text_iff,
        notMark]

theorem withoutAnnotations_eq (adds : AddsAnnotation document annotated) :
    annotated.withoutAnnotations = document.withoutAnnotations := by
  induction adds with
  | explanation before after content =>
      rw [withoutAnnotations, withoutAnnotations, fieldsWithoutAnnotations_append,
        fieldsWithoutAnnotations_append, fieldsWithoutAnnotations, if_pos rfl]
  | @sample before after fields marked =>
      have isSample : isSample (.mapping fields) := marked
      rw [withoutAnnotations, withoutAnnotations, itemsWithoutAnnotations_append,
        itemsWithoutAnnotations_append, itemsWithoutAnnotations, if_pos isSample]
  | inItem before after inside same =>
      -- The element is dropped or kept with the annotation as it was without.
      rw [withoutAnnotations, withoutAnnotations, itemsWithoutAnnotations_append,
        itemsWithoutAnnotations_append, itemsWithoutAnnotations, itemsWithoutAnnotations,
        inside.isSample_eq, same]
  | inField before after notMark inside same =>
      rw [withoutAnnotations, withoutAnnotations, fieldsWithoutAnnotations_append,
        fieldsWithoutAnnotations_append, fieldsWithoutAnnotations, fieldsWithoutAnnotations, same]

end AddsAnnotation

/-- Any number of annotations disappears. -/
theorem withoutAnnotations_eq_of_addsAnnotations
    (adds : Relation.ReflTransGen AddsAnnotation document annotated) :
    annotated.withoutAnnotations = document.withoutAnnotations := by
  induction adds with
  | refl => rfl
  | tail _ addsOne same => exact addsOne.withoutAnnotations_eq.trans same

/-- The settings of a document are those of what is left without its annotations. -/
theorem ofDocument_eq_of_withoutAnnotations_eq
    (same : annotated.withoutAnnotations = document.withoutAnnotations) :
    Settings.ofDocument annotated = Settings.ofDocument document := by
  cases annotated <;> cases document <;> simp_all [withoutAnnotations, Settings.ofDocument]

end Addition

/--
Without its annotations a document is clean; a clean document is left as it is, and so is what was
left already. To add any explanations and samples outside of the marks of samples changes neither
what is left of a document nor the settings that it states or what is wrong with them.
-/
theorem annotations_are_invisible (document : Value) :
    document.withoutAnnotations.IsClean ∧
    (document.IsClean → document.withoutAnnotations = document) ∧
    document.withoutAnnotations.withoutAnnotations = document.withoutAnnotations ∧
    ∀ annotated, Relation.ReflTransGen AddsAnnotation document annotated →
      annotated.withoutAnnotations = document.withoutAnnotations ∧
      Settings.ofDocument annotated = Settings.ofDocument document := by
  have clean := isClean_withoutAnnotations document
  refine ⟨clean, withoutAnnotations_eq_self, withoutAnnotations_eq_self clean, ?_⟩
  intro annotated adds
  have same := withoutAnnotations_eq_of_addsAnnotations adds
  exact ⟨same, ofDocument_eq_of_withoutAnnotations_eq same⟩

-- A sample that is added inside of a mark makes the mapping around it a sample.
example :
    withoutAnnotations (.list [.mapping [(.text "sample_entry", .list [])]]) =
        .list [.mapping [(.text "sample_entry", .list [])]] ∧
      withoutAnnotations
          (.list [.mapping
            [(.text "sample_entry", .list [.mapping [(.text "sample_entry", .bool true)]])]]) =
        .list [] :=
  ⟨rfl, rfl⟩

end Value

end ReleaseWatch
