import ReleaseWatch.Failure

/-!
# Templates

A text of a definition is a template: `$1` to `$9` are holes for the arguments of a call, unless a
backslash stands before the sign. A call whose arguments are not a list has that one argument.
What fills a hole is not looked at again, and a null argument fills it with nothing. An argument
in which an integer is too long to be written fills none.
-/

namespace ReleaseWatch

/-- A part of a template. -/
inductive Piece where
  | literal (content : Char)
  /-- The place of the argument with this number, counted from one. -/
  | hole (index : Nat)
  deriving DecidableEq, Repr

/-- Why a hole is not filled. -/
inductive HoleProblem where
  /-- No argument has the number of the hole. -/
  | missing (index : Nat)
  /-- The argument is or holds an integer that is too long to be written. -/
  | tooLong
  deriving DecidableEq

/-- The failure of a hole in a text; the name of the call serves the message. -/
def HoleProblem.failure (name : Scalar) (text : String) : HoleProblem → Failure
  | .missing index =>
      .showing name (.argumentMissing index text (if name.isTruthy then some name else none))
  | .tooLong => .numeralTooLong

namespace Piece

/-- The number of the hole that a digit makes behind a dollar sign. -/
def holeIndex? (digit : Char) : Option Nat :=
  if '1' ≤ digit ∧ digit ≤ '9' then some (digit.toNat - '0'.toNat) else none

/-- The parts of a text; `escaped` tells whether a backslash stands before it. -/
def ofText (escaped : Bool) : List Char → List Piece
  | [] => []
  | ['$'] => [.literal '$']
  | '$' :: digit :: rest =>
      match escaped, holeIndex? digit with
      | false, some index => .hole index :: ofText false rest
      | _, _ => .literal '$' :: ofText false (digit :: rest)
  | char :: rest => .literal char :: ofText (char == '\\') rest

/-- The text of an argument. -/
def argumentText : Value → String
  | .null => ""
  | argument => argument.display

/-- Fills the holes of a template; the first one that is not filled is the error. -/
def fill (arguments : List Value) : List Piece → Except HoleProblem (List Char)
  | [] => .ok []
  | .literal content :: rest => (fill arguments rest).map (content :: ·)
  | .hole index :: rest =>
      match arguments[index - 1]? with
      | none => .error (.missing index)
      | some argument =>
          if argument.hasLongInteger then .error .tooLong
          else (fill arguments rest).map ((argumentText argument).toList ++ ·)

end Piece

/-- The arguments of a call. -/
def argumentList : Value → List Value
  | .list arguments => arguments
  | argument => [argument]

/-- Fills the holes of a text with the arguments of a call. -/
def fillText (name : Scalar) (arguments : List Value) (text : String) : Except Failure String :=
  match Piece.fill arguments (Piece.ofText false text.toList) with
  | .ok filled => .ok (String.ofList filled)
  | .error problem => .error (problem.failure name text)

namespace Value

mutual

/-- Fills the texts of a value, at any depth of lists; all else stays as it is. -/
def fill (name : Scalar) (arguments : List Value) : Value → Except Failure Value
  | .scalar (.text content) => (fillText name arguments content).map .text
  | .list items => (fillItems name arguments items).map .list
  | other => .ok other

/-- Fills the elements of a list from left to right. -/
def fillItems (name : Scalar) (arguments : List Value) : List Value → Except Failure (List Value)
  | [] => .ok []
  | item :: rest => do
      let filled ← item.fill name arguments
      let filledRest ← fillItems name arguments rest
      return filled :: filledRest

end

end Value

namespace Mapping

/-- Fills the values of a mapping in order. -/
def fill (name : Scalar) (arguments : List Value) : Mapping → Except Failure Mapping
  | [] => .ok []
  | (key, value) :: rest => do
      let filled ← value.fill name arguments
      let filledRest ← fill name arguments rest
      return (key, filled) :: filledRest

end Mapping

end ReleaseWatch
