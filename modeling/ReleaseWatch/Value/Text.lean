import ReleaseWatch.Number.Shortest
import ReleaseWatch.Text.Numeral
import ReleaseWatch.Text.Quoted
import ReleaseWatch.Value.Basic

/-!
# The text of values

`Value.shown` writes a value so that its kind can be told: texts stand between quotes, lists
between brackets and mappings between braces. `Value.display` does the same but leaves a text on
its own as it is. An integer of more than `digitLimit` digits takes too long to be written;
`Value.hasLongInteger` finds it.
-/

namespace ReleaseWatch

namespace Scalar

/-- A scalar with its texts quoted. -/
def shown : Scalar → String
  | .null => "None"
  | .bool true => "True"
  | .bool false => "False"
  | .int value => toString value
  | .real value => value.text
  | .text value => quoted value

/-- A scalar as plain text. -/
def display : Scalar → String
  | .text value => value
  | other => other.shown

/-- Whether a scalar is an integer of more than `digitLimit` digits. -/
def isLongInteger : Scalar → Bool
  | .int value => Nat.pow 10 digitLimit ≤ value.natAbs
  | _ => false

end Scalar

namespace Value

mutual

/-- A value with its texts quoted. -/
def shown : Value → String
  | .scalar content => content.shown
  | .list items => "[" ++ ", ".intercalate (shownItems items) ++ "]"
  | .mapping fields => "\x7b" ++ ", ".intercalate (shownFields fields) ++ "\x7d"

/-- The elements of a list, each with its texts quoted. -/
def shownItems : List Value → List String
  | [] => []
  | item :: rest => item.shown :: shownItems rest

/-- The entries of a mapping, each with its texts quoted. -/
def shownFields : List (Scalar × Value) → List String
  | [] => []
  | (key, value) :: rest => (key.shown ++ ": " ++ value.shown) :: shownFields rest

end

/-- A value as plain text. -/
def display : Value → String
  | .scalar content => content.display
  | other => other.shown

mutual

/-- Whether writing a value comes upon an integer that is too long. -/
def hasLongInteger : Value → Bool
  | .scalar content => content.isLongInteger
  | .list items => itemsHaveLongInteger items
  | .mapping fields => fieldsHaveLongInteger fields

/-- Whether writing the elements of a list comes upon an integer that is too long. -/
def itemsHaveLongInteger : List Value → Bool
  | [] => false
  | item :: rest => item.hasLongInteger || itemsHaveLongInteger rest

/-- Whether writing the entries of a mapping comes upon an integer that is too long. -/
def fieldsHaveLongInteger : List (Scalar × Value) → Bool
  | [] => false
  | (key, value) :: rest =>
      key.isLongInteger || value.hasLongInteger || fieldsHaveLongInteger rest

end

end Value

end ReleaseWatch
