import Mathlib
import ReleaseWatch.Proofs.Macro.OpenCalls

/-!
# Arguments are opaque

A hole of a definition is filled once, and what fills it is passed on to the calls inside without
being read again. So all calls with one number of arguments come to one and the same thing: to a
failure, or to an outline of a rule, in which every argument stands in its places as it was given.
An outline is computed from the definitions alone, before any argument is known.

There is one restriction. An argument that is itself a list is inserted as the list is written
down, with its texts quoted, and a quoted text is not the text. Calls inside of definitions must
not pass such arguments.
-/

namespace ReleaseWatch

/-- A part of a text that is known up to a number of arguments. -/
inductive Slot (count : Nat) where
  | literal (content : Char)
  | argument (index : Fin count)

/-- A value that is known up to a number of arguments, which stand in its texts. -/
inductive Outline (count : Nat) where
  | constant (value : Value)
  | text (slots : List (Slot count))
  | list (items : List (Outline count))

namespace Outline

variable {count : Nat}

/-- The text with every argument in its places, as it was given. -/
def completeText (given : Fin count → String) : List (Slot count) → List Char
  | [] => []
  | .literal content :: rest => content :: completeText given rest
  | .argument index :: rest => (given index).toList ++ completeText given rest

mutual

/-- The value with every argument in its places. -/
def complete (given : Fin count → String) : Outline count → Value
  | .constant value => value
  | .text slots => .text (String.ofList (completeText given slots))
  | .list items => .list (completeItems given items)

def completeItems (given : Fin count → String) : List (Outline count) → List Value
  | [] => []
  | item :: rest => item.complete given :: completeItems given rest

end

/-- The mapping with every argument in its places; the keys are constant. -/
def completeFields (given : Fin count → String) (fields : List (Scalar × Outline count)) :
    Mapping :=
  fields.map fun entry => (entry.1, entry.2.complete given)

theorem completeFields_cons (given : Fin count → String) (entry : Scalar × Outline count)
    (rest : List (Scalar × Outline count)) :
    completeFields given (entry :: rest) =
      (entry.1, entry.2.complete given) :: completeFields given rest := rfl

theorem completeText_append (given : Fin count → String) (slots others : List (Slot count)) :
    completeText given (slots ++ others) =
      completeText given slots ++ completeText given others := by
  induction slots with
  | nil => rfl
  | cons slot rest ih =>
      cases slot with
      | literal content => simp [completeText, ih]
      | argument index => simp [completeText, ih]

theorem completeText_literals (given : Fin count → String) (content : List Char) :
    completeText given (content.map .literal) = content := by
  induction content with
  | nil => rfl
  | cons char rest ih => rw [List.map_cons, completeText, ih]

theorem completeItems_eq_map (given : Fin count → String) (items : List (Outline count)) :
    completeItems given items = items.map (·.complete given) := by
  induction items with
  | nil => rfl
  | cons item rest ih => rw [completeItems, ih, List.map_cons]

/-- The arguments that a value stands for in a call. -/
def arguments : Outline count → List (Outline count)
  | .list items => items
  | .constant (.list items) => items.map .constant
  | other => [other]

theorem argumentList_complete (given : Fin count → String) (outline : Outline count) :
    argumentList (outline.complete given) = outline.arguments.map (·.complete given) := by
  cases outline with
  | constant value =>
      cases value with
      | scalar content => rfl
      | list items => simp [complete, arguments, argumentList, Function.comp_def]
      | mapping fields => rfl
  | text slots => rfl
  | list items => exact completeItems_eq_map given items

/-- None of several arguments is a list. -/
def ArePlain (arguments : List (Outline count)) : Prop :=
  ∀ argument ∈ arguments, ∀ items, argument ≠ .list items

/-- What an argument that is no list is inserted as is known up to the given arguments. -/
theorem exists_slots_of_argument {outline : Outline count}
    (plain : ∀ items, outline ≠ .list items) :
    ∃ slots, ∀ given, (Piece.argumentText (outline.complete given)).toList =
      completeText given slots := by
  cases outline with
  | constant value =>
      refine ⟨(Piece.argumentText value).toList.map .literal, ?_⟩
      intro given
      rw [completeText_literals, complete]
  | text slots =>
      refine ⟨slots, ?_⟩
      intro given
      simp [complete, Piece.argumentText, Value.display, Scalar.display]
  | list items => exact absurd rfl (plain items)

/--
Whether an argument that is no list is too long to be written does not depend on what is given.
-/
theorem exists_hasLongInteger_of_argument {outline : Outline count}
    (plain : ∀ items, outline ≠ .list items) :
    ∃ isLong, ∀ given, (outline.complete given).hasLongInteger = isLong := by
  cases outline with
  | constant value => exact ⟨value.hasLongInteger, fun given => rfl⟩
  | text slots => exact ⟨false, fun given => rfl⟩
  | list items => exact absurd rfl (plain items)

theorem exists_insert (fields : List (Scalar × Outline count)) (key : Scalar)
    (value : Outline count) :
    ∃ inserted, ∀ given,
      (completeFields given fields).insert key
      (value.complete given) = completeFields given inserted := by
  induction fields with
  | nil => exact ⟨[(key, value)], fun given => rfl⟩
  | cons entry rest ih =>
      by_cases same : entry.1.agrees key
      · refine ⟨(entry.1, value) :: rest, ?_⟩
        intro given
        simp [completeFields, Mapping.insert, same]
      · rcases ih with ⟨inserted, insertedRest⟩
        refine ⟨entry :: inserted, ?_⟩
        intro given
        have others := insertedRest given
        simp only [completeFields] at others
        simp [completeFields, Mapping.insert, same, others]

theorem exists_merge (fields extra : List (Scalar × Outline count)) :
    ∃ merged, ∀ given,
      (completeFields given fields).merge
      (completeFields given extra) = completeFields given merged := by
  induction extra generalizing fields with
  | nil => exact ⟨fields, fun given => rfl⟩
  | cons entry rest ih =>
      rcases exists_insert fields entry.1 entry.2 with ⟨inserted, insertedFirst⟩
      rcases ih inserted with ⟨merged, mergedRest⟩
      refine ⟨merged, ?_⟩
      intro given
      rw [← mergedRest given, ← insertedFirst given]
      rfl

end Outline

/--
A computation comes to the same for all arguments: always to one failure, or always to what the
arguments make of one outline.
-/
def Uniform {count : Nat} {Error Shape Result : Type}
    (complete : (Fin count → String) → Shape → Result)
    (run : (Fin count → String) → Except Error Result) : Prop :=
  ∃ outcome : Except Error Shape, ∀ given, run given = outcome.map (complete given)

namespace Uniform

variable {count : Nat} {Error Shape Result Shape' Result' : Type}
  {complete : (Fin count → String) → Shape → Result}
  {complete' : (Fin count → String) → Shape' → Result'}
  {run : (Fin count → String) → Except Error Result}

theorem error (failure : Error) : Uniform complete fun _ => .error failure :=
  ⟨.error failure, fun _ => rfl⟩

theorem ok (shape : Shape) :
    Uniform complete fun given => (.ok (complete given shape) : Except Error Result) :=
  ⟨.ok shape, fun _ => rfl⟩

/-- A step behind a uniform one is uniform if it is on every outline that the first one comes to. -/
theorem bind {next : (Fin count → String) → Result → Except Error Result'}
    (uniform : Uniform complete run)
    (continues : ∀ shape, (∀ given, run given = .ok (complete given shape)) →
      Uniform complete' fun given => next given (complete given shape)) :
    Uniform complete' fun given => (run given).bind (next given) := by
  rcases uniform with ⟨outcome, same⟩
  cases outcome with
  | error failure =>
      refine ⟨.error failure, ?_⟩
      intro given
      simp only [same given]
      rfl
  | ok shape =>
      rcases continues shape same with ⟨later, sameLater⟩
      refine ⟨later, ?_⟩
      intro given
      simp only [same given]
      exact sameLater given

theorem map {change : (Fin count → String) → Result → Result'}
    (uniform : Uniform complete run)
    (changes : ∀ shape, ∃ shape', ∀ given, change given (complete given shape) =
      complete' given shape') :
    Uniform complete' fun given => (run given).map (change given) := by
  rcases uniform with ⟨outcome, same⟩
  cases outcome with
  | error failure =>
      refine ⟨.error failure, ?_⟩
      intro given
      simp only [same given]
      rfl
  | ok shape =>
      rcases changes shape with ⟨shape', changed⟩
      refine ⟨.ok shape', ?_⟩
      intro given
      simp only [same given]
      exact congrArg Except.ok (changed given)

end Uniform

section Filling

open Outline

variable {count : Nat} {arguments : List (Outline count)}

/-- The holes of a template take arguments as they are; only the template is read. -/
theorem uniform_fillPieces (plain : ArePlain arguments)
    (pieces : List Piece) :
    Uniform completeText fun given => Piece.fill (arguments.map (·.complete given)) pieces := by
  induction pieces with
  | nil => exact .ok []
  | cons piece rest ih =>
      cases piece with
      | literal content =>
          simp only [Piece.fill]
          apply ih.map
          intro slots
          exact ⟨.literal content :: slots, fun given => rfl⟩
      | hole index =>
          simp only [Piece.fill, List.getElem?_map]
          rcases found : arguments[index - 1]? with _ | argument
          · exact .error (HoleProblem.missing index)
          · have isPlain := plain argument (List.mem_of_getElem? found)
            rcases exists_slots_of_argument isPlain with ⟨inserted, insertedText⟩
            rcases exists_hasLongInteger_of_argument isPlain with ⟨isLong, isLong_eq⟩
            simp only [Option.map_some, isLong_eq]
            cases isLong with
            | true => exact .error HoleProblem.tooLong
            | false =>
                apply ih.map
                intro slots
                refine ⟨inserted ++ slots, ?_⟩
                intro given
                rw [completeText_append, ← insertedText given]

theorem uniform_fillText (plain : ArePlain arguments) (name : Scalar) (text : String) :
    Uniform (fun given slots => String.ofList (completeText given slots))
      fun given => fillText name (arguments.map (·.complete given)) text := by
  rcases uniform_fillPieces plain (Piece.ofText false text.toList) with ⟨outcome, same⟩
  cases outcome with
  | error problem =>
      refine ⟨.error (problem.failure name text), ?_⟩
      intro given
      simp only [fillText, same given]
      rfl
  | ok slots =>
      refine ⟨.ok slots, ?_⟩
      intro given
      simp only [fillText, same given]
      rfl

mutual

theorem uniform_fillValue (plain : ArePlain arguments) (name : Scalar) :
    ∀ value : Value, Uniform complete fun given =>
      value.fill name (arguments.map (·.complete given))
  | .scalar (.text content) => by
      simp only [Value.fill]
      apply (uniform_fillText plain name content).map
      intro slots
      exact ⟨.text slots, fun given => rfl⟩
  | .list items => by
      simp only [Value.fill]
      apply (uniform_fillItems plain name items).map
      intro filled
      exact ⟨.list filled, fun given => rfl⟩
  | .scalar .null => .ok (Outline.constant .null)
  | .scalar (.bool content) => .ok (Outline.constant (.bool content))
  | .scalar (.int content) => .ok (Outline.constant (.int content))
  | .scalar (.real content) => .ok (Outline.constant (.scalar (.real content)))
  | .mapping fields => .ok (Outline.constant (.mapping fields))

theorem uniform_fillItems (plain : ArePlain arguments) (name : Scalar) :
    ∀ items : List Value,
      Uniform completeItems fun given =>
        Value.fillItems name (arguments.map (·.complete given)) items
  | [] => .ok []
  | item :: rest => by
      simp only [Value.fillItems]
      apply (uniform_fillValue plain name item).bind
      intro first filledFirst
      apply (uniform_fillItems plain name rest).bind
      intro others filledRest
      exact .ok (first :: others)

end

theorem uniform_fillFields (plain : ArePlain arguments) (name : Scalar) (fields : Mapping) :
    Uniform completeFields fun given => fields.fill name (arguments.map (·.complete given)) := by
  induction fields with
  | nil => exact .ok []
  | cons entry rest ih =>
      simp only [Mapping.fill]
      apply (uniform_fillValue plain name entry.2).bind
      intro first filledFirst
      apply ih.bind
      intro others filledRest
      exact .ok ((entry.1, first) :: others)

end Filling

section Expanding

open Mapping Outline

/-- The arguments that a value stands for in a call are no lists. -/
def Value.HasPlainArguments (value : Value) : Prop :=
  ∀ argument ∈ argumentList value, ∀ items, argument ≠ .list items

namespace Mapping

/-- The calls of a mapping have no lists among their arguments. -/
def CallsPlainly (definitions fields : Mapping) : Prop :=
  ∀ entry ∈ fields, definitions.hasKey entry.1 → entry.2.HasPlainArguments

/-- No definition passes a list inside of an argument list. -/
def PassesPlainArguments (definitions : Mapping) : Prop :=
  ∀ entry ∈ definitions, ∀ fields, entry.2 = .mapping fields →
    definitions.CallsPlainly fields

end Mapping

theorem Value.mem_fillItems {name : Scalar} {arguments items filled : List Value}
    (done : fillItems name arguments items = .ok filled) {value : Value}
    (value_mem : value ∈ filled) :
    ∃ item ∈ items, item.fill name arguments = .ok value := by
  induction items generalizing filled with
  | nil =>
      cases done
      cases value_mem
  | cons item rest ih =>
      rcases fillItems_cons_eq_ok_iff.mp done with ⟨first, filledFirst, others, filledRest, rfl⟩
      rcases List.mem_cons.mp value_mem with rfl | others_mem
      · exact ⟨item, by simp, filledFirst⟩
      · rcases ih filledRest others_mem with ⟨source, source_mem, filledSource⟩
        exact ⟨source, by simp [source_mem], filledSource⟩

/-- Filling makes lists of lists only. -/
theorem Value.fill_eq_list {name : Scalar} {arguments items : List Value} {value : Value}
    (done : value.fill name arguments = .ok (.list items)) :
    ∃ sources, value = .list sources ∧ fillItems name arguments sources = .ok items := by
  cases value with
  | scalar content =>
      cases content with
      | text template =>
          rcases Outcome.map_eq_ok_iff.mp done with ⟨text, _, same⟩
          cases same
      | _ => cases done
  | list sources =>
      rcases Outcome.map_eq_ok_iff.mp done with ⟨filled, filledItems, same⟩
      cases same
      exact ⟨sources, rfl, filledItems⟩
  | mapping fields => cases done

theorem Value.HasPlainArguments.of_fill {name : Scalar} {arguments : List Value}
    {value filled : Value}
    (plain : value.HasPlainArguments) (done : value.fill name arguments = .ok filled) :
    filled.HasPlainArguments := by
  intro argument argument_mem items isList
  subst isList
  cases filled with
  | list values =>
      rcases fill_eq_list done with ⟨sources, rfl, filledItems⟩
      rcases mem_fillItems filledItems argument_mem with ⟨source, source_mem, filledSource⟩
      rcases fill_eq_list filledSource with ⟨inner, rfl, _⟩
      exact plain _ source_mem inner rfl
  | scalar content => cases List.mem_singleton.mp argument_mem
  | mapping fields => cases List.mem_singleton.mp argument_mem

namespace Mapping

variable {definitions fields : Mapping}

theorem mem_fill {name : Scalar} {arguments : List Value} {body : Mapping}
    (filled : fill name arguments fields = .ok body) {entry : Scalar × Value}
    (entry_mem : entry ∈ body) :
    ∃ value, (entry.1, value) ∈ fields ∧ value.fill name arguments = .ok entry.2 := by
  induction fields generalizing body with
  | nil =>
      cases filled
      cases entry_mem
  | cons first rest ih =>
      rcases fill_cons_eq_ok_iff.mp filled with ⟨value, filledFirst, others, filledRest, rfl⟩
      rcases List.mem_cons.mp entry_mem with rfl | others_mem
      · exact ⟨first.2, by simp, filledFirst⟩
      · rcases ih filledRest others_mem with ⟨source, source_mem, filledSource⟩
        exact ⟨source, by simp [source_mem], filledSource⟩

theorem CallsPlainly.of_fill {name : Scalar} {arguments : List Value} {body : Mapping}
    (plain : definitions.CallsPlainly fields) (filled : fill name arguments fields = .ok body) :
    definitions.CallsPlainly body := by
  intro entry entry_mem isCall
  rcases mem_fill filled entry_mem with ⟨value, value_mem, filledValue⟩
  exact (plain _ value_mem isCall).of_fill filledValue

theorem mem_of_find? {key : Scalar} {value : Value} (found : fields.find? key = some value) :
    ∃ entry ∈ fields, entry.2 = value := by
  induction fields with
  | nil => cases found
  | cons entry rest ih =>
      rw [find?_cons] at found
      split at found
      · exact ⟨entry, by simp, Option.some.inj found⟩
      · rcases ih found with ⟨later, later_mem, same⟩
        exact ⟨later, by simp [later_mem], same⟩

end Mapping

section Equations

variable {definitions available expanded rest : Mapping} {chain : List Scalar} {key : Scalar}
    {value : Value}

theorem expandFields_own (isOwn : definitions.hasKey key = false) :
    expandFields definitions chain available expanded ((key, value) :: rest) =
      expandFields definitions chain available (expanded.insert key value) rest := by
  rw [expandFields]
  simp [isOwn]

/-- A call, with what becomes of each kind of definition as one step after the other. -/
theorem expandFields_call (isCall : definitions.hasKey key) :
    expandFields definitions chain available expanded ((key, value) :: rest) =
      match available.find? key with
      | none => .error (cycleFailure (chain ++ [key]))
      | some (.scalar (.text pattern)) => (fillText key (argumentList value) pattern).map titleRule
      | some (.mapping fields) =>
          (Mapping.fill key (argumentList value) fields).bind fun body =>
            (expandFields definitions (chain ++ [key]) (available.erase key) [] body).bind
              fun inner =>
              expandFields definitions chain available (expanded.merge inner) rest
      | some other => .error (.showing key (.definitionNotMapping key other.kindName)) := by
  rw [expandFields, if_pos isCall]
  split
  · rename_i missing
    rw [missing]
  · rename_i pattern found
    rw [found]
  · rename_i fields found
    rw [found]
    rcases filled : Mapping.fill key (argumentList value) fields with failure | body
    · simp only [filled, Outcome.bind_error]
    · rcases ran : expandFields definitions (chain ++ [key]) (available.erase key) [] body with
        failure | inner
      · simp only [filled, ran, Outcome.bind_ok, Outcome.bind_error]
      · simp only [filled, ran, Outcome.bind_ok]
  · rename_i other notText notMapping found
    rw [found]
    split
    all_goals simp_all

end Equations

theorem Outline.arePlain_arguments {count : Nat} {outline : Outline count}
    {given : Fin count → String}
    (plain : (outline.complete given).HasPlainArguments) : ArePlain outline.arguments := by
  rintro argument argument_mem items rfl
  have completed_mem : (Outline.list items).complete given ∈
      outline.arguments.map (·.complete given) :=
    List.mem_map_of_mem argument_mem
  rw [← argumentList_complete] at completed_mem
  exact plain _ completed_mem _ rfl

/--
The expansion of an outline is uniform. The induction is that of the expansion itself: the body of
a call has one definition less available, and the rest of the entries is shorter.
-/
theorem uniform_expandFields {count : Nat} {definitions : Mapping}
    (plain : definitions.PassesPlainArguments)
    (chain : List Scalar) (available : Mapping) (known : available ⊆ definitions)
    (expanded fields : List (Scalar × Outline count))
    (callsPlainly : ∀ given, definitions.CallsPlainly (completeFields given fields)) :
    Uniform completeFields fun given =>
      expandFields definitions chain available (completeFields given expanded)
        (completeFields given fields) := by
  cases fields with
  | nil =>
      refine ⟨.ok expanded, ?_⟩
      intro given
      simp [completeFields, expandFields, Except.map]
  | cons entry rest =>
      rcases entry with ⟨key, value⟩
      have restPlainly : ∀ given, definitions.CallsPlainly (completeFields given rest) := by
        intro given other other_mem
        exact callsPlainly given other (List.mem_cons_of_mem _ other_mem)
      simp only [completeFields_cons]
      by_cases isCall : definitions.hasKey key
      · have valuePlain : (value.complete fun _ => "").HasPlainArguments :=
          callsPlainly (fun _ => "") (key, value.complete fun _ => "")
            (by simp [completeFields_cons]) isCall
        have argumentsPlain := arePlain_arguments valuePlain
        simp only [expandFields_call isCall, argumentList_complete]
        rcases found : available.find? key with _ | definition
        · exact .error _
        · rcases mem_of_find? found with ⟨defined, defined_mem, same⟩
          cases definition with
          | list items => exact .error _
          | scalar content =>
              cases content with
              | text pattern =>
                  apply (uniform_fillText argumentsPlain key pattern).map
                  intro slots
                  exact ⟨[(.text "title", .text slots)], fun given => rfl⟩
              | _ => exact .error _
          | mapping inner =>
              have innerPlainly := plain defined (known defined_mem) inner same
              apply (uniform_fillFields argumentsPlain key inner).bind
              intro body filled
              have bodyPlainly : ∀ given, definitions.CallsPlainly (completeFields given body) :=
                fun given => innerPlainly.of_fill (filled given)
              have stillKnown := List.Subset.trans (erase_sublist available key).subset known
              apply (uniform_expandFields plain (chain ++ [key]) (available.erase key) stillKnown
                [] body bodyPlainly).bind
              intro result ran
              rcases exists_merge expanded result with ⟨merged, mergedFields⟩
              simp only [mergedFields]
              exact uniform_expandFields plain chain available known merged rest restPlainly
      · simp only [expandFields_own (Bool.eq_false_iff.mpr isCall)]
        rcases exists_insert expanded key value with ⟨inserted, insertedFields⟩
        simp only [insertedFields]
        exact uniform_expandFields plain chain available known inserted rest restPlainly
termination_by (available.length, fields.length)
decreasing_by
  · exact Prod.Lex.left _ _ (Mapping.length_erase_lt found)
  · subst_vars
    exact Prod.Lex.right _ (Nat.lt_succ_self _)
  · subst_vars
    exact Prod.Lex.right _ (Nat.lt_succ_self _)

/-- A rule that consists of one call with texts for arguments. -/
def callRule (name : Scalar) (arguments : List String) : Value :=
  .mapping [(name, .list (arguments.map .text))]

/-- The outline of such a rule, before the arguments are known. -/
def callOutline (name : Scalar) (count : Nat) : List (Scalar × Outline count) :=
  [(name, .list (List.ofFn fun index => .text [.argument index]))]

theorem completeFields_callOutline {count : Nat} (name : Scalar) (given : Fin count → String) :
    completeFields given (callOutline name count) =
      [(name, .list ((List.ofFn given).map .text))] := by
  rw [callOutline, completeFields_cons, complete, completeItems_eq_map, List.map_ofFn,
    List.map_ofFn]
  simp [completeFields, Function.comp_def, complete, completeText]

theorem callsPlainly_callOutline {count : Nat} (definitions : Mapping) (name : Scalar)
    (given : Fin count → String) :
    definitions.CallsPlainly (completeFields given (callOutline name count)) := by
  rw [completeFields_callOutline]
  rintro entry entry_mem _ argument argument_mem items rfl
  rw [List.mem_singleton.mp entry_mem] at argument_mem
  rcases List.mem_map.mp argument_mem with ⟨text, _, never⟩
  cases never

/--
All rules that call one name with one number of texts fail alike, or they all come to one outline
in which the texts stand as they were given. Whatever a text consists of, it is not looked into.
-/
theorem expandRule_callRule_uniform {definitions : Mapping}
    (plain : definitions.PassesPlainArguments) (name : Scalar) (count : Nat) :
    (∃ failure, ∀ arguments : List String, arguments.length = count →
      expandRule definitions (callRule name arguments) = .error failure) ∨
    ∃ outline : List (Scalar × Outline count),
      ∀ (arguments : List String) (same : arguments.length = count),
      expandRule definitions (callRule name arguments) =
        .ok (completeFields (fun index => arguments[index]) outline) := by
  have uniform :=
    uniform_expandFields plain [] definitions (List.Subset.refl _) [] (callOutline name count)
    (callsPlainly_callOutline definitions name)
  rcases uniform with ⟨outcome, same⟩
  have expanded : ∀ (arguments : List String) (sameCount : arguments.length = count),
      expandRule definitions (callRule name arguments) =
        outcome.map (completeFields fun index => arguments[index]) := by
    rintro arguments rfl
    have inOrder : (List.ofFn fun index : Fin arguments.length => arguments[index]) = arguments :=
      List.ofFn_getElem
    have ran := same fun index => arguments[index]
    simp only [completeFields_callOutline, inOrder] at ran
    exact ran
  cases outcome with
  | error failure => exact Or.inl ⟨failure, expanded⟩
  | ok outline => exact Or.inr ⟨outline, expanded⟩

end Expanding

namespace Brackets

/-- A definition that calls another one, with texts of its own around its arguments. -/
def definitions : Mapping :=
  [(.text "fansub", .mapping [(.text "title", .text "^\\[$1\\] $2"),
      (.text "group", .list [.text "$1", .null])]),
    (.text "show", .mapping [(.text "fansub", .list [.text "$2", .text "$1 \\$1"]),
      (.text "ep", .int 1)])]

/-- What a call with a hole and an escaped hole for arguments comes to. -/
def expanded : Mapping :=
  [(.text "title", .text "^\\[\\$1\\] $2( \\$1"), (.text "group", .list [.text "\\$1", .null]),
    (.text "ep", .int 1)]

theorem passesPlainArguments_definitions : definitions.PassesPlainArguments := by
  intro entry entry_mem fields isMapping
  simp only [definitions, List.mem_cons, List.not_mem_nil, or_false] at entry_mem
  rcases entry_mem with rfl | rfl
  · cases isMapping
    simp [Mapping.CallsPlainly, Value.HasPlainArguments, argumentList, definitions, Mapping.hasKey,
      Mapping.find?]
  · cases isMapping
    simp [Mapping.CallsPlainly, Value.HasPlainArguments, argumentList, definitions, Mapping.hasKey,
      Mapping.find?]

theorem expandRule_two :
    expandRule definitions (callRule (.text "show") ["$2(", "\\$1"]) = .ok expanded := by cbv

theorem expandRule_one :
    expandRule definitions (callRule (.text "show") ["A"]) =
      .error (.configuration (.argumentMissing 2 "$2" (some (.text "show")))) := by cbv

/--
Two texts take their places, also where they look like holes themselves; one text is never enough.
-/
theorem expandRule_callRule_uniform_of_brackets :
    definitions.PassesPlainArguments ∧
    (∃ outline : List (Scalar × Outline 2),
      (∀ (arguments : List String) (same : arguments.length = 2),
        expandRule definitions (callRule (.text "show") arguments) =
          .ok (Outline.completeFields (fun index => arguments[index]) outline)) ∧
      Outline.completeFields (fun index => ["$2(", "\\$1"][index]) outline = expanded) ∧
    ∃ failure, ∀ arguments : List String, arguments.length = 1 →
      expandRule definitions (callRule (.text "show") arguments) = .error failure := by
  refine ⟨passesPlainArguments_definitions, ?_, ?_⟩
  · rcases expandRule_callRule_uniform passesPlainArguments_definitions (.text "show") 2 with
      ⟨failure, fails⟩ | ⟨outline, expands⟩
    · have failed := fails ["$2(", "\\$1"] rfl
      rw [expandRule_two] at failed
      cases failed
    · have completed := expands ["$2(", "\\$1"] rfl
      rw [expandRule_two] at completed
      exact ⟨outline, expands, (Except.ok.inj completed).symm⟩
  · rcases expandRule_callRule_uniform passesPlainArguments_definitions (.text "show") 1 with
      fails | ⟨outline, expands⟩
    · exact fails
    · have completed := expands ["A"] rfl
      rw [expandRule_one] at completed
      cases completed

end Brackets

end ReleaseWatch
