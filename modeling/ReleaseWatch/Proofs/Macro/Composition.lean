import Mathlib
import ReleaseWatch.Proofs.Macro.CallGraph
import ReleaseWatch.Proofs.Macro.OpaqueArguments
import ReleaseWatch.Proofs.Macro.Templates
import ReleaseWatch.Proofs.Rule.Check

/-!
# Filling in two steps

A call inside of a definition has arguments with holes of their own. They are filled first, with
the arguments of the outer call, and then take their places in the inner definition. The other
order comes to the same: to put them in their places as they are, and to fill what results with
the outer arguments. The inner definition has to consist of templates for this, and the arguments
have to end apart, so that what results has the holes of the arguments and no others.

An expansion does so call after call. `CarriesOver` says that one run fails as another one does,
or comes to what the result of the other is filled to; it is passed on from texts to values,
mappings and expansions.
-/

namespace ReleaseWatch

/-! ## Arguments -/

/-- An argument that is filled in its place as it is on its own. -/
inductive Value.IsApart : Value → Prop
  | text {content : String} (ends : EndsApart content.toList) : IsApart (.text content)
  | settled {argument : Value} (plain : ∀ items, argument ≠ .list items)
      (noSign : '$' ∉ (Piece.argumentText argument).toList)
      (ends : EndsApart (Piece.argumentText argument).toList) : IsApart argument

/-- The texts of a value are templates. -/
def Value.HasTemplates (value : Value) : Prop :=
  ∀ content, value.Offers (.text content) → Template false content.toList

theorem Value.hasTemplates_text_iff {content : String} :
    (Value.text content).HasTemplates ↔ Template false content.toList := by
  constructor
  · exact fun templates => templates content (.scalar _)
  · rintro template _ ⟨⟩
    exact template

theorem Value.hasTemplates_list_iff {items : List Value} :
    (Value.list items).HasTemplates ↔ ∀ item ∈ items, item.HasTemplates := by
  constructor
  · exact fun templates item item_mem content offers => templates content (.item item_mem offers)
  · rintro templates content offers
    cases offers with
    | item item_mem offers => exact templates _ item_mem content offers

section Filling

variable {name : Scalar} {arguments : List Value}

theorem Value.fill_text_eq_ok_iff {text : String} {filled : Value} :
    (Value.text text).fill name arguments = .ok filled ↔
      ∃ content, fillText name arguments text = .ok content ∧ .text content = filled := by
  rw [fill]
  exact Outcome.map_eq_ok_iff

theorem Value.fill_settled {argument : Value} (plain : ∀ items, argument ≠ .list items)
    (noSign : '$' ∉ (Piece.argumentText argument).toList) :
    argument.fill name arguments = .ok argument := by
  cases argument with
  | list items => exact absurd rfl (plain items)
  | mapping fields => rfl
  | scalar content =>
      cases content with
      | text content =>
          have absent : '$' ∉ content.toList := noSign
          refine fill_text_eq_ok_iff.mpr ⟨content, fillText_eq_ok_iff.mpr ?_, rfl⟩
          rw [Piece.ofText_of_not_mem absent, Piece.fill_literals]
      | _ => rfl

namespace Value

theorem IsApart.endsApart {argument : Value} (apart : argument.IsApart) :
    EndsApart (Piece.argumentText argument).toList := by
  cases apart with
  | text ends => exact ends
  | settled plain noSign ends => exact ends

/-- To fill an argument and to fill its text is the same. -/
theorem IsApart.fill_argumentText {argument filled : Value} (apart : argument.IsApart)
    (done : argument.fill name arguments = .ok filled) :
    Piece.fill arguments (Piece.ofText false (Piece.argumentText argument).toList) =
      .ok (Piece.argumentText filled).toList := by
  cases apart with
  | text ends =>
      rcases fill_text_eq_ok_iff.mp done with ⟨content, doneText, rfl⟩
      exact fillText_eq_ok_iff.mp doneText
  | settled plain noSign ends =>
      rw [fill_settled plain noSign] at done
      cases done
      rw [Piece.ofText_of_not_mem noSign, Piece.fill_literals]

/-- An argument is too long to be written exactly if it was so before it was filled. -/
theorem IsApart.hasLongInteger_eq_of_fill {argument filled : Value} (apart : argument.IsApart)
    (done : argument.fill name arguments = .ok filled) :
    filled.hasLongInteger = argument.hasLongInteger := by
  cases apart with
  | text ends =>
      rcases fill_text_eq_ok_iff.mp done with ⟨content, _, rfl⟩
      rfl
  | settled plain noSign ends =>
      rw [fill_settled plain noSign] at done
      cases done
      rfl

theorem IsApart.of_fill {argument filled : Value} (isApart : argument.IsApart)
    (templates : argument.HasTemplates) (apart : ∀ argument ∈ arguments, argument.IsApart)
    (done : argument.fill name arguments = .ok filled) :
    filled.IsApart := by
  cases isApart with
  | @text content ends =>
      rcases fill_text_eq_ok_iff.mp done with ⟨filledText, doneText, rfl⟩
      have template := hasTemplates_text_iff.mp templates
      exact .text (Piece.endsApart_of_fill
        (fun argument argument_mem => (apart argument argument_mem).endsApart)
        template ends (fillText_eq_ok_iff.mp doneText))
  | settled plain noSign ends =>
      rw [fill_settled plain noSign] at done
      cases done
      exact .settled plain noSign ends

theorem fillItems_argumentList {value filled : Value}
    (done : value.fill name arguments = .ok filled) :
    fillItems name arguments (argumentList value) = .ok (argumentList filled) := by
  cases value with
  | list items =>
      rcases Outcome.map_eq_ok_iff.mp done with ⟨filledItems, doneItems, rfl⟩
      exact doneItems
  | mapping fields =>
      cases done
      rfl
  | scalar content =>
      cases content with
      | text content =>
          have filledAlone := done
          rcases fill_text_eq_ok_iff.mp done with ⟨filledText, _, rfl⟩
          simp only [argumentList, fillItems, filledAlone]
          rfl
      | _ =>
          cases done
          rfl

theorem HasTemplates.of_mem_argumentList {value argument : Value} (templates : value.HasTemplates)
    (argument_mem : argument ∈ argumentList value) : argument.HasTemplates := by
  cases value with
  | list items => exact hasTemplates_list_iff.mp templates argument argument_mem
  | _ =>
      rw [List.mem_singleton.mp argument_mem]
      exact templates

theorem getElem?_fillItems {items filled : List Value}
    (done : fillItems name arguments items = .ok filled) (index : Nat) :
    (items[index]? = none ∧ filled[index]? = none) ∨
      ∃ item value, items[index]? = some item ∧ filled[index]? = some value ∧
        item.fill name arguments = .ok value := by
  induction items generalizing filled index with
  | nil =>
      cases done
      exact Or.inl ⟨rfl, rfl⟩
  | cons item rest ih =>
      rcases fillItems_cons_eq_ok_iff.mp done with ⟨first, filledFirst, others, filledRest, rfl⟩
      cases index with
      | zero => exact Or.inr ⟨item, first, rfl, rfl, filledFirst⟩
      | succ index => exact ih filledRest index

end Value

end Filling

/-! ## Runs with filled arguments -/

/-- One run fails as another one does, or it comes to what the result of the other is filled to. -/
inductive CarriesOver {Error Result Filled : Type} (fill : Result → Except Error Filled) :
    (run : Except Error Result) → (filledRun : Except Error Filled) → Prop
  | error (failure : Error) : CarriesOver fill (.error failure) (.error failure)
  | ok {result : Result} {filled : Filled} (done : fill result = .ok filled) :
    CarriesOver fill (.ok result) (.ok filled)

namespace CarriesOver

variable {Error Result Filled Result' Filled' : Type} {fill : Result → Except Error Filled}
  {fill' : Result' → Except Error Filled'} {run : Except Error Result}
    {filledRun : Except Error Filled}

theorem eq_bind (carries : CarriesOver fill run filledRun) : filledRun = run.bind fill := by
  cases carries with
  | error failure => rfl
  | ok done => exact done.symm

theorem exists_filled (carries : CarriesOver fill run filledRun) {result : Result}
    (ran : run = .ok result) :
    ∃ filled, fill result = .ok filled ∧ filledRun = .ok filled := by
  cases carries with
  | error failure => cases ran
  | ok done =>
      cases ran
      exact ⟨_, done, rfl⟩

theorem map {change : Result → Result'} {change' : Filled → Filled'}
    (carries : CarriesOver fill run filledRun)
    (changes : ∀ result filled, fill result = .ok filled →
      fill' (change result) = .ok (change' filled)) :
    CarriesOver fill' (run.map change) (filledRun.map change') := by
  cases carries with
  | error failure => exact .error failure
  | ok done => exact .ok (changes _ _ done)

theorem bind {next : Result → Except Error Result'} {next' : Filled → Except Error Filled'}
    (carries : CarriesOver fill run filledRun)
    (continues : ∀ result filled, run = .ok result → fill result = .ok filled →
      CarriesOver fill' (next result) (next' filled)) :
    CarriesOver fill' (run.bind next) (filledRun.bind next') := by
  cases carries with
  | error failure => exact .error failure
  | ok done => exact continues _ _ rfl done

end CarriesOver

section Carrying

variable {name inner : Scalar} {arguments passed filledArguments : List Value}

/-- A template with filled arguments is the template with the arguments, filled. -/
theorem carriesOver_fillPieces (apart : ∀ argument ∈ passed, argument.IsApart)
    (done : Value.fillItems name arguments passed = .ok filledArguments) {escaped : Bool}
    {text : List Char} (template : Template escaped text) :
    CarriesOver (fun between => Piece.fill arguments (Piece.ofText escaped between))
      (Piece.fill passed (Piece.ofText escaped text))
      (Piece.fill filledArguments (Piece.ofText escaped text)) := by
  induction template with
  | nil => exact .ok rfl
  | @literal escaped char rest noSign others ih =>
      simp only [Piece.ofText_literal noSign, Piece.fill]
      apply ih.map
      intro between filled doneRest
      rw [Piece.ofText_literal noSign]
      exact Piece.fill_literal_eq_ok_iff.mpr ⟨filled, doneRest, rfl⟩
  | @hole digit index rest isHole others ih =>
      simp only [Piece.ofText_hole isHole, Piece.fill]
      rcases Value.getElem?_fillItems done (index - 1) with
        ⟨missing, missingToo⟩ | ⟨argument, filledArgument, found, foundToo, doneArgument⟩
      · rw [missing, missingToo]
        exact .error (HoleProblem.missing index)
      · have isApart := apart argument (List.mem_of_getElem? found)
        rw [found, foundToo]
        dsimp only
        rw [isApart.hasLongInteger_eq_of_fill doneArgument]
        split
        · exact .error HoleProblem.tooLong
        · apply ih.map
          intro between filled doneRest
          rw [Piece.ofText_append isApart.endsApart]
          exact Piece.fill_append (isApart.fill_argumentText doneArgument) doneRest

theorem carriesOver_fillText (apart : ∀ argument ∈ passed, argument.IsApart)
    (done : Value.fillItems name arguments passed = .ok filledArguments) {text : String}
    (template : Template false text.toList) :
    CarriesOver (fillText name arguments) (fillText inner passed text)
      (fillText inner filledArguments text) := by
  have carries := carriesOver_fillPieces apart done template
  unfold fillText
  generalize Piece.fill passed (Piece.ofText false text.toList) = run at carries
  generalize Piece.fill filledArguments (Piece.ofText false text.toList) = filledRun at carries
  cases carries with
  | error problem => exact .error _
  | @ok between filled doneBetween =>
      refine .ok (fillText_eq_ok_iff.mpr ?_)
      simpa using doneBetween

mutual

theorem carriesOver_fillValue (apart : ∀ argument ∈ passed, argument.IsApart)
    (done : Value.fillItems name arguments passed = .ok filledArguments) :
    ∀ value : Value, value.HasTemplates →
      CarriesOver (Value.fill name arguments) (value.fill inner passed)
        (value.fill inner filledArguments)
  | .scalar (.text content), templates => by
      simp only [Value.fill]
      apply (carriesOver_fillText apart done (Value.hasTemplates_text_iff.mp templates)).map
      intro between filled doneText
      exact Value.fill_text_eq_ok_iff.mpr ⟨filled, doneText, rfl⟩
  | .list items, templates => by
      simp only [Value.fill]
      apply (carriesOver_fillItems apart done items (Value.hasTemplates_list_iff.mp templates)).map
      intro between filled doneItems
      rw [Value.fill, doneItems]
      rfl
  | .scalar .null, _ => .ok rfl
  | .scalar (.bool _), _ => .ok rfl
  | .scalar (.int _), _ => .ok rfl
  | .scalar (.real _), _ => .ok rfl
  | .mapping _, _ => .ok rfl

theorem carriesOver_fillItems (apart : ∀ argument ∈ passed, argument.IsApart)
    (done : Value.fillItems name arguments passed = .ok filledArguments) :
    ∀ items : List Value, (∀ item ∈ items, item.HasTemplates) →
      CarriesOver (Value.fillItems name arguments) (Value.fillItems inner passed items)
        (Value.fillItems inner filledArguments items)
  | [], _ => .ok rfl
  | item :: rest, templates => by
      simp only [Value.fillItems]
      apply (carriesOver_fillValue apart done item (templates item (by simp))).bind
      intro first filledFirst _ doneFirst
      apply (carriesOver_fillItems apart done rest fun later later_mem =>
        templates later (by simp [later_mem])).bind
      intro others filledOthers _ doneOthers
      exact .ok (Value.fillItems_cons_eq_ok_iff.mpr ⟨_, doneFirst, _, doneOthers, rfl⟩)

end

theorem carriesOver_fillFields (apart : ∀ argument ∈ passed, argument.IsApart)
    (done : Value.fillItems name arguments passed = .ok filledArguments) {fields : Mapping}
    (templates : ∀ entry ∈ fields, entry.2.HasTemplates) :
    CarriesOver (Mapping.fill name arguments) (fields.fill inner passed)
      (fields.fill inner filledArguments) := by
  induction fields with
  | nil => exact .ok rfl
  | cons entry rest ih =>
      simp only [Mapping.fill]
      apply (carriesOver_fillValue apart done entry.2 (templates entry (by simp))).bind
      intro first filledFirst _ doneFirst
      apply (ih fun later later_mem => templates later (by simp [later_mem])).bind
      intro others filledOthers _ doneOthers
      exact .ok (Mapping.fill_cons_eq_ok_iff.mpr ⟨_, doneFirst, _, doneOthers, rfl⟩)

end Carrying

/-! ## Expansion -/

namespace Mapping

/-- The arguments of the calls of a mapping are filled in their places as they are on their own. -/
def CallsApart (definitions fields : Mapping) : Prop :=
  ∀ entry ∈ fields, definitions.hasKey entry.1 → ∀ argument ∈ argumentList entry.2,
    argument.IsApart

/-- What a name defines consists of templates, and passes on arguments apart. -/
structure DefinesTemplates (definitions : Mapping) (name : Scalar) : Prop where
  pattern : ∀ pattern, definitions.find? name = some (.text pattern) →
    Template false pattern.toList
  values : ∀ fields, definitions.find? name = some (.mapping fields) →
    ∀ entry ∈ fields, entry.2.HasTemplates
  calls : ∀ fields, definitions.find? name = some (.mapping fields) →
    definitions.CallsApart fields

variable {definitions fields filled body : Mapping} {name : Scalar} {arguments : List Value}
    {value filledValue : Value}

theorem DefinesTemplates.of_mapping (found : definitions.find? name = some (.mapping fields))
    (values : ∀ entry ∈ fields, entry.2.HasTemplates) (calls : definitions.CallsApart fields) :
    definitions.DefinesTemplates name where
  pattern := by
    intro pattern isText
    rw [found] at isText
    cases isText
  values := by
    intro other isMapping
    rw [found] at isMapping
    cases isMapping
    exact values
  calls := by
    intro other isMapping
    rw [found] at isMapping
    cases isMapping
    exact calls

theorem fill_insert (key : Scalar) (done : fields.fill name arguments = .ok filled)
    (doneValue : value.fill name arguments = .ok filledValue) :
    (fields.insert key value).fill name arguments = .ok (filled.insert key filledValue) := by
  induction fields generalizing filled with
  | nil =>
      cases done
      exact fill_cons_eq_ok_iff.mpr ⟨_, doneValue, _, rfl, rfl⟩
  | cons entry rest ih =>
      rcases fill_cons_eq_ok_iff.mp done with ⟨first, doneFirst, others, doneRest, rfl⟩
      simp only [insert]
      split
      · exact fill_cons_eq_ok_iff.mpr ⟨_, doneValue, _, doneRest, rfl⟩
      · exact fill_cons_eq_ok_iff.mpr ⟨_, doneFirst, _, ih doneRest, rfl⟩

theorem fill_merge {extra filledExtra : Mapping} (done : fields.fill name arguments = .ok filled)
    (doneExtra : extra.fill name arguments = .ok filledExtra) :
    (fields.merge extra).fill name arguments = .ok (filled.merge filledExtra) := by
  induction extra generalizing fields filled filledExtra with
  | nil =>
      cases doneExtra
      exact done
  | cons entry rest ih =>
      rcases fill_cons_eq_ok_iff.mp doneExtra with ⟨first, doneFirst, others, doneRest, rfl⟩
      have doneMerged := ih (fill_insert entry.1 done doneFirst) doneRest
      exact doneMerged

/-- Filled arguments of calls stay apart, if they and what fills them did. -/
theorem CallsApart.of_fill (calls : definitions.CallsApart fields)
    (templates : ∀ entry ∈ fields, entry.2.HasTemplates)
    (apart : ∀ argument ∈ arguments, argument.IsApart)
    (done : fields.fill name arguments = .ok body) :
    definitions.CallsApart body := by
  intro entry entry_mem isCall argument argument_mem
  rcases mem_fill done entry_mem with ⟨value, value_mem, doneValue⟩
  rcases Value.mem_fillItems (Value.fillItems_argumentList doneValue) argument_mem with
    ⟨source, source_mem, doneSource⟩
  have sourceTemplates := (templates _ value_mem).of_mem_argumentList source_mem
  exact (calls _ value_mem isCall source source_mem).of_fill sourceTemplates apart doneSource

end Mapping

section Expanding

open Mapping

variable {definitions : Mapping} {name : Scalar} {arguments : List Value}

theorem carriesOver_titleRule {run filledRun : Except Failure String}
    (carries : CarriesOver (fillText name arguments) run filledRun) :
    CarriesOver (Mapping.fill name arguments) (run.map titleRule) (filledRun.map titleRule) := by
  apply carries.map
  intro title filled done
  exact fill_cons_eq_ok_iff.mpr ⟨_, Value.fill_text_eq_ok_iff.mpr ⟨filled, done, rfl⟩,
    _, rfl, rfl⟩

/--
The expansion of a filled mapping is the filled expansion of the mapping. The induction is that
of the expansion: the body of a called definition, once its holes are filled, is itself a
mapping that is filled later.
-/
theorem carriesOver_expandFields {chain : List Scalar} {available : Mapping}
    (under : definitions.AvailableUnder chain available) {expanded filledExpanded : Mapping}
    (doneExpanded : expanded.fill name arguments = .ok filledExpanded) {fields body : Mapping}
    (done : fields.fill name arguments = .ok body) (calls : definitions.CallsApart fields)
    (templates : ∀ callee, definitions.Reaches fields callee →
      definitions.DefinesTemplates callee) :
    CarriesOver (Mapping.fill name arguments)
      (expandFields definitions chain available expanded fields)
      (expandFields definitions chain available filledExpanded body) := by
  cases fields with
  | nil =>
      cases done
      simp only [expandFields]
      exact .ok doneExpanded
  | cons entry rest =>
      rcases entry with ⟨key, value⟩
      rcases fill_cons_eq_ok_iff.mp done with
        ⟨filledValue, doneValue, filledRest, doneRest, rfl⟩
      have callsRest : definitions.CallsApart rest :=
        fun later later_mem => calls later (List.mem_cons_of_mem _ later_mem)
      have templatesRest : ∀ callee, definitions.Reaches rest callee →
          definitions.DefinesTemplates callee :=
        fun callee reaches => templates callee (reaches.cons _)
      by_cases isCall : definitions.hasKey key
      · have template := templates key ⟨key, hasCall_head isCall, .refl⟩
        have apart := calls _ List.mem_cons_self isCall
        have doneArguments := Value.fillItems_argumentList doneValue
        simp only [expandFields_call isCall]
        rcases found : available.find? key with _ | definition
        · exact .error _
        · have defined := under.find?_of_find? found
          cases definition with
          | list items => exact .error _
          | scalar content =>
              cases content with
              | text pattern =>
                  exact carriesOver_titleRule
                    (carriesOver_fillText apart doneArguments (template.pattern pattern defined))
              | _ => exact .error _
          | mapping inner =>
              apply (carriesOver_fillFields apart doneArguments
                (template.values inner defined)).bind
              intro between filledBetween filled doneBetween
              have callsBetween :=
                (template.calls inner defined).of_fill (template.values inner defined) apart filled
              apply (carriesOver_expandFields (under.opening key) rfl doneBetween callsBetween
                fun callee reaches => templates callee (reaches.of_body defined filled)).bind
              intro result filledResult _ doneResult
              exact carriesOver_expandFields under (fill_merge doneExpanded doneResult) doneRest
                callsRest templatesRest
      · simp only [expandFields_own (Bool.eq_false_iff.mpr isCall)]
        exact carriesOver_expandFields under (fill_insert key doneExpanded doneValue) doneRest
          callsRest templatesRest
termination_by (available.length, fields.length)
decreasing_by
  · exact Prod.Lex.left _ _ (Mapping.length_erase_lt found)
  · subst_vars
    exact Prod.Lex.right _ (Nat.lt_succ_self _)
  · subst_vars
    exact Prod.Lex.right _ (Nat.lt_succ_self _)

end Expanding

/-! ## Both orders -/

theorem hasLongInteger_texts (texts : List String) :
    ∀ argument ∈ texts.map Value.text, argument.hasLongInteger = false := by
  intro argument argument_mem
  rcases List.mem_map.mp argument_mem with ⟨text, _, rfl⟩
  rfl

/-- Texts that are covered are filled one by one, on their own as among the arguments of a call. -/
theorem exists_fillItems_texts (name : Scalar) {arguments : List Value} {texts : List String}
    (short : ∀ argument ∈ arguments, argument.hasLongInteger = false)
    (covered : ∀ text ∈ texts, CoveredBy arguments.length text) :
    ∃ filled, List.Forall₂ (fun text filledText => fillText name arguments text =
      .ok filledText) texts filled ∧
      Value.fillItems name arguments (texts.map .text) = .ok (filled.map .text) := by
  induction texts with
  | nil => exact ⟨[], .nil, rfl⟩
  | cons text rest ih =>
      rcases exists_fillText name short (covered text List.mem_cons_self) with
        ⟨first, doneFirst⟩
      rcases ih fun later later_mem => covered later (List.mem_cons_of_mem _ later_mem) with
        ⟨others, fills, doneRest⟩
      have doneValue := Value.fill_text_eq_ok_iff.mpr ⟨first, doneFirst, rfl⟩
      exact ⟨first :: others, .cons doneFirst fills,
        Value.fillItems_cons_eq_ok_iff.mpr ⟨_, doneValue, _, doneRest, rfl⟩⟩

/--
Arguments may be filled before they take their places, or in them. Every dollar sign of the text
that they are put in begins a hole, and none of them ends in a backslash or a dollar sign; if all
holes are covered, both orders come to one text. So to expand the calls in a mapping and then to
fill what results is the same as to fill the mapping first, as a call of a definition does: it
comes to the same mapping, or fails in the same way.
-/
theorem fillings_compose :
    (∀ (name outerName : Scalar) (template : String) (passed outer : List String),
      Template false template.toList → CoveredBy passed.length template →
      (∀ text ∈ passed, EndsApart text.toList ∧ CoveredBy outer.length text) →
      ∃ filled result,
        List.Forall₂ (fun text filledText => fillText outerName (outer.map .text) text =
          .ok filledText) passed filled ∧
        fillText name (filled.map .text) template = .ok result ∧
        (fillText name (passed.map .text) template).bind
        (fillText outerName (outer.map .text)) = .ok result) ∧
    ∀ (definitions available : Mapping) (chain : List Scalar) (name : Scalar)
      (arguments : List Value) (fields body : Mapping),
      definitions.AvailableUnder chain available → definitions.CallsApart fields →
      (∀ callee, definitions.Reaches fields callee → definitions.DefinesTemplates callee) →
      fields.fill name arguments = .ok body →
      expandFields definitions chain available [] body =
        (expandFields definitions chain available [] fields).bind
        (Mapping.fill name arguments) := by
  constructor
  · intro name outerName template passed outer isTemplate covered passes
    have coveredPassed : ∀ text ∈ passed, CoveredBy (outer.map Value.text).length text := by
      intro text text_mem
      rw [List.length_map]
      exact (passes text text_mem).2
    have apart : ∀ argument ∈ passed.map Value.text, argument.IsApart := by
      intro argument argument_mem
      rcases List.mem_map.mp argument_mem with ⟨text, text_mem, rfl⟩
      exact .text (passes text text_mem).1
    rcases exists_fillItems_texts outerName (hasLongInteger_texts outer) coveredPassed with
      ⟨filled, fills, done⟩
    have carries : CarriesOver (fillText outerName (outer.map .text))
        (fillText name (passed.map .text) template)
        (fillText name (filled.map .text) template) := carriesOver_fillText apart done isTemplate
    have coveredTemplate : CoveredBy (passed.map Value.text).length template := by
      rw [List.length_map]
      exact covered
    rcases exists_fillText name (hasLongInteger_texts passed) coveredTemplate with
      ⟨between, placed⟩
    rcases carries.exists_filled placed with ⟨result, doneBetween, placedFilled⟩
    exact ⟨filled, result, fills, placedFilled, by rw [placed]; exact doneBetween⟩
  · intro definitions available chain name arguments fields body under calls templates done
    exact (carriesOver_expandFields under rfl done calls templates).eq_bind

namespace CallsInCalls

/-- What a show is: two arguments for a group and a title, one of them with an escaped hole. -/
def fields : Mapping :=
  [(.text "fansub", .list [.text "$2", .text "$1 \\$1"]), (.text "ep", .int 1)]

/-- What a group and a title make, with a further call. -/
def fansub : Mapping :=
  [(.text "title", .text "[$1] $2$1"), (.text "group", .list [.text "$1", .null]),
    (.text "note", .text "$2!")]

def note : Mapping :=
  [(.text "comment", .text "$1")]

def definitions : Mapping :=
  [(.text "show", .mapping fields), (.text "fansub", .mapping fansub),
    (.text "note", .mapping note)]

/-- An argument that ends in a backslash, and one that looks like a hole. -/
def outer : List String :=
  ["A\\", "$2"]

def body : Mapping :=
  [(.text "fansub", .list [.text "$2", .text "A\\ \\$1"]), (.text "ep", .int 1)]

def expanded : Mapping :=
  [(.text "title", .text "[$2] A\\ \\$1$2"), (.text "group", .list [.text "$2", .null]),
    (.text "comment", .text "A\\ \\$1!"), (.text "ep", .int 1)]

theorem availableUnder_show :
    definitions.AvailableUnder [.text "show"] (definitions.erase (.text "show")) := by
  have distinct : definitions.DistinctKeys := by simp [definitions, Mapping.DistinctKeys]
  exact (Mapping.AvailableUnder.initial distinct).opening (.text "show")

theorem callsApart_fields : definitions.CallsApart fields := by
  intro entry entry_mem isCall argument argument_mem
  simp only [fields, List.mem_cons, List.not_mem_nil, or_false] at entry_mem
  rcases entry_mem with rfl | rfl
  · simp only [argumentList, List.mem_cons, List.not_mem_nil, or_false] at argument_mem
    rcases argument_mem with rfl | rfl
    · exact .text (by decide)
    · exact .text (by decide)
  · exact absurd isCall (by decide)

theorem definesTemplates_fansub : definitions.DefinesTemplates (.text "fansub") := by
  have found : definitions.find? (.text "fansub") = some (.mapping fansub) := rfl
  apply Mapping.DefinesTemplates.of_mapping found
  · intro entry entry_mem
    simp only [fansub, List.mem_cons, List.not_mem_nil, or_false] at entry_mem
    rcases entry_mem with rfl | rfl | rfl
    · exact Value.hasTemplates_text_iff.mpr (Piece.template_iff.mpr (by decide))
    · refine Value.hasTemplates_list_iff.mpr ?_
      simp only [List.mem_cons, List.not_mem_nil, or_false]
      rintro item (rfl | rfl)
      · exact Value.hasTemplates_text_iff.mpr (Piece.template_iff.mpr (by decide))
      · rintro content ⟨⟩
    · exact Value.hasTemplates_text_iff.mpr (Piece.template_iff.mpr (by decide))
  · intro entry entry_mem isCall argument argument_mem
    simp only [fansub, List.mem_cons, List.not_mem_nil, or_false] at entry_mem
    rcases entry_mem with rfl | rfl | rfl
    · exact absurd isCall (by decide)
    · exact absurd isCall (by decide)
    · rw [List.mem_singleton.mp argument_mem]
      exact .text (by decide)

theorem definesTemplates_note : definitions.DefinesTemplates (.text "note") := by
  have found : definitions.find? (.text "note") = some (.mapping note) := rfl
  apply Mapping.DefinesTemplates.of_mapping found
  · intro entry entry_mem
    rw [List.mem_singleton.mp entry_mem]
    exact Value.hasTemplates_text_iff.mpr (Piece.template_iff.mpr (by decide))
  · intro entry entry_mem isCall
    rw [List.mem_singleton.mp entry_mem] at isCall
    exact absurd isCall (by decide)

theorem callee_of_hasCall {called : Mapping} (known : called ⊆ fields ++ (fansub ++ note))
    {callee : Scalar} (hasCall : definitions.HasCall called callee) :
    callee = .text "fansub" ∨ callee = .text "note" := by
  have names : ∀ entry ∈ fields ++ (fansub ++ note), definitions.hasKey entry.1 →
      entry.1 = .text "fansub" ∨ entry.1 = .text "note" := by
    decide
  rcases hasCall with ⟨present, defined⟩
  rcases Mapping.hasKey_iff.mp present with ⟨entry, entry_mem, same⟩
  rw [← Mapping.hasKey_congr same] at defined
  rcases names entry (known entry_mem) defined with isFansub | isNote
  · rw [isFansub] at same
    exact Or.inl (Scalar.text_agrees_iff.mp same)
  · rw [isNote] at same
    exact Or.inr (Scalar.text_agrees_iff.mp same)

/-- The outer definition is not among those that its body reaches, so it needs no templates. -/
theorem definesTemplates_of_reaches {callee : Scalar}
    (reaches : definitions.Reaches fields callee) :
    definitions.DefinesTemplates callee := by
  have isInner : callee = .text "fansub" ∨ callee = .text "note" := by
    rcases reaches with ⟨start, hasCall, path⟩
    induction path with
    | refl => exact callee_of_hasCall (List.subset_append_left _ _) hasCall
    | tail path calls ih =>
        rcases calls with ⟨called, found, hasCallInner⟩
        rcases ih with rfl | rfl
        · obtain rfl : fansub = called := Value.mapping.inj (Option.some.inj found)
          exact callee_of_hasCall (by simp) hasCallInner
        · obtain rfl : note = called := Value.mapping.inj (Option.some.inj found)
          exact callee_of_hasCall (by simp) hasCallInner
  rcases isInner with rfl | rfl
  · exact definesTemplates_fansub
  · exact definesTemplates_note

/--
A text and a mapping with calls inside of calls: an escaped
hole stays, and so does an argument that looks like one.
-/
theorem fillings_compose_of_calls :
    (∃ filled result,
      List.Forall₂
        (fun text filledText =>
          fillText (.text "show") (outer.map .text) text = .ok filledText)
        ["$2", "$1 \\$1", ""] filled ∧
      fillText (.text "fansub") (filled.map .text) "[$1] $2$3$1" = .ok result ∧
      (fillText (.text "fansub") (["$2", "$1 \\$1", ""].map .text) "[$1] $2$3$1").bind
        (fillText (.text "show") (outer.map .text)) = .ok result) ∧
    (expandFields definitions [.text "show"] (definitions.erase (.text "show")) [] fields).bind
      (Mapping.fill (.text "show") (outer.map .text)) = .ok expanded := by
  constructor
  · apply fillings_compose.1
    · exact Piece.template_iff.mpr (by decide)
    · decide
    · decide
  · rw [← fillings_compose.2 _ _ _ _ _ _ body availableUnder_show callsApart_fields
      fun _ => definesTemplates_of_reaches]
    · cbv
    · cbv

end CallsInCalls

end ReleaseWatch
