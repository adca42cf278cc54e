import ReleaseWatch.Number.Binary64

/-!
# Document values

The settings document is a tree of scalars, lists and mappings. A mapping keeps the order in
which its keys were first set, and its keys are scalars. Numbers agree by value, whatever their
kind: the integer 1, the number 1.0 and the truth value true are one key, and a number that is
undefined agrees with nothing.
-/

namespace ReleaseWatch

/-- A value without parts. -/
inductive Scalar where
  | null
  | bool (value : Bool)
  | int (value : Int)
  | real (value : Binary64)
  | text (value : String)
  deriving DecidableEq, Repr

/-- What a number, or a truth value taken as 0 or 1, amounts to. -/
inductive Quantity where
  | infinite (negative : Bool)
  | finite (value : Rat)
  deriving DecidableEq

namespace Scalar

/-- The quantity of a number or truth value. -/
def quantity? : Scalar → Option Quantity
  | .bool value => some (.finite (if value then 1 else 0))
  | .int value => some (.finite value)
  | .real (.infinite negative) => some (.infinite negative)
  | .real number => number.toRat?.map .finite
  | _ => none

def agrees (left right : Scalar) : Bool :=
  match left, right with
  | .null, .null => true
  | .text left, .text right => left == right
  | left, right =>
      match left.quantity?, right.quantity? with
      | some left, some right => left == right
      | _, _ => false

/-- Whether a scalar counts as true: everything but null, false, zero and the empty text. -/
def isTruthy : Scalar → Bool
  | .null => false
  | .bool value => value
  | .int value => value != 0
  | .real value => !value.isZero
  | .text value => value != ""

end Scalar

/-- A document value. -/
inductive Value where
  | scalar (content : Scalar)
  | list (items : List Value)
  | mapping (fields : List (Scalar × Value))

/-- The entries of a mapping, in the order in which their keys were first set. -/
abbrev Mapping := List (Scalar × Value)

namespace Value

@[match_pattern]
abbrev null : Value := .scalar .null

@[match_pattern]
abbrev text (content : String) : Value := .scalar (.text content)

@[match_pattern]
abbrev bool (content : Bool) : Value := .scalar (.bool content)

@[match_pattern]
abbrev int (content : Int) : Value := .scalar (.int content)

/-- Whether a value counts as true: a scalar that does, or a list or mapping that is not empty. -/
def isTruthy : Value → Bool
  | .scalar content => content.isTruthy
  | .list items => !items.isEmpty
  | .mapping fields => !fields.isEmpty

/-- The kind of a value, as messages name it. -/
def kindName : Value → String
  | .scalar .null => "NoneType"
  | .scalar (.bool _) => "bool"
  | .scalar (.int _) => "int"
  | .scalar (.real _) => "float"
  | .scalar (.text _) => "str"
  | .list _ => "list"
  | .mapping _ => "dict"

end Value

namespace Mapping

def find? (fields : Mapping) (key : Scalar) : Option Value :=
  match fields with
  | [] => none
  | (present, value) :: rest => if present.agrees key then some value else find? rest key

/-- The value of a text key; an absent key has the null value. -/
def get (fields : Mapping) (key : String) : Value :=
  (find? fields (.text key)).getD .null

def hasKey (fields : Mapping) (key : Scalar) : Bool :=
  (find? fields key).isSome

def erase (fields : Mapping) (key : Scalar) : Mapping :=
  match fields with
  | [] => []
  | (present, value) :: rest =>
      if present.agrees key then rest else (present, value) :: erase rest key

theorem length_erase_lt {fields : Mapping} {key : Scalar} {value : Value}
    (found : fields.find? key = some value) : (fields.erase key).length < fields.length := by
  induction fields with
  | nil => simp [find?] at found
  | cons entry rest inductionHypothesis =>
      obtain ⟨present, old⟩ := entry
      by_cases same : present.agrees key
      · simp [erase, same]
      · simp only [find?, same] at found
        simpa [erase, same] using inductionHypothesis found

/-- Sets a key; one that is present keeps its place and its spelling. -/
def insert (fields : Mapping) (key : Scalar) (value : Value) : Mapping :=
  match fields with
  | [] => [(key, value)]
  | (present, old) :: rest =>
      if present.agrees key then (present, value) :: rest
      else (present, old) :: insert rest key value

def merge (fields extra : Mapping) : Mapping :=
  extra.foldl (fun merged entry => merged.insert entry.1 entry.2) fields

/-- The mapping that results from setting keys one after the other in an empty one. -/
def ofList (entries : List (Scalar × Value)) : Mapping :=
  merge [] entries

end Mapping

end ReleaseWatch
