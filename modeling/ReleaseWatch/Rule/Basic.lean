import ReleaseWatch.Entry.Basic
import ReleaseWatch.Macro.Expansion
import ReleaseWatch.Pattern.Title
import ReleaseWatch.Settings.Basic

/-!
# Rules

A rule selects entries. Each key of a rule is a selector: one that names a field of the
entry is a matcher, any other has to name a group of the rule's title pattern. Rules are
made from the fragments of the settings after their calls are expanded, and a rule set is
made as a whole or not at all.
-/

namespace ReleaseWatch

/-- What a rule asks of one field of an entry. -/
inductive Matcher where
  | titlePattern (title : TitlePattern)
  /-- The field has to be present and equal to one of the values. -/
  | anyOf (selector : String) (field : EntryField) (values : List Value)
  | equal (selector : String) (field : EntryField) (value : Value)

/-- A selector that no field has; it has to name a group of the title pattern. -/
structure Gate where
  selector : String
  value : Value

/-- A rule that entries can be matched with. -/
structure Rule where
  name : String
  matchers : List Matcher
  gates : List Gate
  /-- What is checked against the info that the title gives. -/
  infoChecks : List (InfoKey × Value)
  /-- The mapping that the rule was made from, calls expanded. -/
  source : Mapping

/-- The rules of one pass, and how the best of several versions is chosen. -/
structure RuleSet where
  deny : List Rule := []
  accept : List Rule := []
  tieBreak : List String := []

namespace Rule

/-- What one key of a rule becomes. -/
inductive Clause where
  | matcher (matcher : Matcher)
  | gate (gate : Gate)

namespace Clause

/-- The clause of one key; a title that is a text is a pattern. -/
def ofEntry (rule : String) : Scalar × Value → Except Failure Clause
  | (.text selector, value) =>
      match EntryField.ofSelector? selector, value with
      | none, value => .ok (.gate { selector, value })
      | some .title, .scalar (.text pattern) =>
          (TitlePattern.ofText pattern rule).map fun title => .matcher (.titlePattern title)
      | some field, .list values => .ok (.matcher (.anyOf selector field values))
      | some field, value => .ok (.matcher (.equal selector field value))
  | (selector, _) => .error (.showing selector (.selectorNotText rule selector))

def matcher? : Clause → Option Matcher
  | .matcher found => some found
  | .gate _ => none

def gate? : Clause → Option Gate
  | .matcher _ => none
  | .gate found => some found

end Clause

def clauses (rule : String) : Mapping → Except Failure (List Clause)
  | [] => .ok []
  | entry :: rest => do
      let clause ← Clause.ofEntry rule entry
      let others ← clauses rule rest
      return clause :: others

/-- The check of an info that a key asks for, if it names something of an info. -/
def infoCheck? : Scalar × Value → Option (InfoKey × Value)
  | (.text selector, value) => (InfoKey.ofLabel? selector).map fun key => (key, value)
  | _ => none

/-- The rule of a mapping whose calls are expanded. -/
def ofFields (name : String) (fields : Mapping) : Except Failure Rule :=
  if fields.isEmpty then .error (.configuration (.emptyRule name))
  else (clauses name fields).map fun clauses =>
    { name
      matchers := clauses.filterMap Clause.matcher?
      gates := clauses.filterMap Clause.gate?
      infoChecks := fields.filterMap infoCheck?
      source := fields }

def ofFragment (definitions : Mapping) (name : String) (fragment : Value) : Except Failure Rule :=
  match expandRule definitions fragment with
  | .ok fields => ofFields name fields
  | .error failure => .error failure

/-- The name of the rule at a place of its list. -/
def nameAt (kind : String) (index : Nat) : String :=
  kind ++ "[" ++ toString index ++ "]"

/-- The rules of fragments, numbered from `index` on. -/
def listFrom (definitions : Mapping) (kind : String) (index : Nat) :
    List Value → Except Failure (List Rule)
  | [] => .ok []
  | fragment :: rest => do
      let rule ← ofFragment definitions (nameAt kind index) fragment
      let others ← listFrom definitions kind (index + 1) rest
      return rule :: others

def ofFragments (definitions : Mapping) (kind : String) (fragments : List Value) :
    Except Failure (List Rule) :=
  listFrom definitions kind 0 fragments

end Rule

namespace RuleSet

/-- The tie-break keys that name nothing of an info. -/
def unknownKeys (tieBreak : List String) : List String :=
  tieBreak.filter fun label => (InfoKey.ofLabel? label).isNone

/-- The rule set of the settings, as a whole. -/
def ofSettings (settings : FilterSettings) : Except Failure RuleSet :=
  match unknownKeys settings.tieBreak with
  | [] => do
      let deny ← Rule.ofFragments settings.definitions "deny" settings.deny
      let accept ← Rule.ofFragments settings.definitions "accept" settings.accept
      return { deny, accept, tieBreak := settings.tieBreak }
  | unknown => .error (.configuration (.unknownTieBreak unknown))

end RuleSet

end ReleaseWatch
