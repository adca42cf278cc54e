import ReleaseWatch.Pattern.Basic

/-!
# Searching for patterns

A part is run at a place of the text together with what has to follow it, and tries its ways one
after the other until what follows succeeds. A group remembers where it was entered and left last.
A repetition stops when an optional round would start where the round before it started, so the
rounds are bounded by those required and the characters left.
-/

namespace ReleaseWatch

/-- How far a search has come in the text, and where each group was entered and left last. -/
structure Cursor where
  position : Nat
  entered : Array (Option Nat)
  left : Array (Option Nat)
  deriving Repr

namespace Cursor

def start (groups position : Nat) : Cursor where
  position := position
  entered := Array.replicate (groups + 1) none
  left := Array.replicate (groups + 1) none

def step (cursor : Cursor) : Cursor :=
  { cursor with position := cursor.position + 1 }

def enter (cursor : Cursor) (number : Nat) : Cursor :=
  { cursor with entered := cursor.entered.setIfInBounds number (some cursor.position) }

def leave (cursor : Cursor) (number : Nat) : Cursor :=
  { cursor with left := cursor.left.setIfInBounds number (some cursor.position) }

/-- The start and the end of what a group took. -/
def span? (cursor : Cursor) (number : Nat) : Option (Nat × Nat) :=
  match cursor.entered[number]?, cursor.left[number]? with
  | some (some first), some (some stop) => if first ≤ stop then some (first, stop) else none
  | _, _ => none

end Cursor

/-- What has to follow a part. -/
abbrev Continuation := Cursor → Option Cursor

namespace Anchor

def isWordAt (ascii : Bool) (text : Array Char) (position : Nat) : Bool :=
  match text[position]? with
  | some char => Category.word.holds ascii char.toNat
  | none => false

/-- Whether a place is the one asked for. -/
def holds (text : Array Char) (position : Nat) : Anchor → Bool
  | .textStart => position == 0
  | .textEnd => position == text.size
  | .lineStart => position == 0 || text[position - 1]? == some '\n'
  | .lineEnd => position == text.size || text[position]? == some '\n'
  | .lastLineEnd =>
      position == text.size || (position + 1 == text.size && text[position]? == some '\n')
  | .wordEdge negated ascii =>
      let before := position != 0 && isWordAt ascii text (position - 1)
      let after := isWordAt ascii text position
      !text.isEmpty && ((before != after) != negated)

end Anchor

namespace Node

def isBelow (count : Nat) : Option Nat → Bool
  | none => true
  | some most => count < most

/-- Rounds of a greedy repetition: another round first, then what follows. -/
def greedyRounds (round : Continuation → Continuation) (least : Nat) (most : Option Nat)
    (next : Continuation) : Nat → Nat → Option Nat → Continuation
  | 0, _, _, _ => none
  | bound + 1, count, lastStart, cursor =>
      if count < least then
        round (greedyRounds round least most next bound (count + 1) lastStart) cursor
      else if isBelow count most && lastStart != some cursor.position then
        match round
            (greedyRounds round least most next bound (count + 1) (some cursor.position))
              cursor with
        | some found => some found
        | none => next cursor
      else next cursor

/-- Rounds of a lazy repetition: what follows first, then another round. -/
def lazyRounds (round : Continuation → Continuation) (least : Nat) (most : Option Nat)
    (next : Continuation) : Nat → Nat → Option Nat → Continuation
  | 0, _, _, _ => none
  | bound + 1, count, lastStart, cursor =>
      if count < least then
        round (lazyRounds round least most next bound (count + 1) lastStart) cursor
      else
        match next cursor with
        | some found => some found
        | none =>
            if isBelow count most && lastStart != some cursor.position then
              round (lazyRounds round least most next bound (count + 1) (some cursor.position))
                cursor
            else none

/-- Rounds of a possessive repetition: as many as there are, each taken as it first matches. -/
def possessiveRounds (round : Continuation → Continuation) (least : Nat) (most : Option Nat) :
    Nat → Nat → Option Nat → Continuation
  | 0, _, _, _ => none
  | bound + 1, count, lastStart, cursor =>
      if count < least then
        match round some cursor with
        | some reached => possessiveRounds round least most bound (count + 1) lastStart reached
        | none => none
      else if isBelow count most && lastStart != some cursor.position then
        match round some cursor with
        | some reached =>
            possessiveRounds round least most bound (count + 1) (some cursor.position) reached
        | none => some cursor
      else some cursor

/-- Takes a text that stands between two places once more, code point by code point. -/
def repeatText (same : Nat → Nat → Bool) (text : Array Char) (source position : Nat) :
    Nat → Bool
  | 0 => true
  | count + 1 =>
      match text[source]?, text[position]? with
      | some expected, some char =>
          same expected.toNat char.toNat &&
            repeatText same text (source + 1) (position + 1) count
      | _, _ => false

/-- Runs a part and what follows it; the result is the cursor behind everything. -/
def run (text : Array Char) : Node → Continuation → Continuation
  | .empty, next, cursor => next cursor
  | .one modes test, next, cursor =>
      match text[cursor.position]? with
      | some char => if test.accepts modes char.toNat then next cursor.step else none
      | none => none
  | .anchor place, next, cursor =>
      if place.holds text cursor.position then next cursor else none
  | .sequence first second, next, cursor =>
      first.run text (fun reached => second.run text next reached) cursor
  | .choice first second, next, cursor =>
      match first.run text next cursor with
      | some found => some found
      | none => second.run text next cursor
  | .repetition greed least most body, next, cursor =>
      let bound := least + (text.size - cursor.position) + 2
      let round := fun follow reached => body.run text follow reached
      match greed with
      | .greedy => greedyRounds round least most next bound 0 none cursor
      | .lazy => lazyRounds round least most next bound 0 none cursor
      | .possessive =>
          match possessiveRounds round least most bound 0 none cursor with
          | some reached => next reached
          | none => none
  | .group number body, next, cursor =>
      body.run text (fun reached => next (reached.leave number)) (cursor.enter number)
  | .reference modes number _, next, cursor =>
      match cursor.span? number with
      | none => none
      | some (first, stop) =>
          let same (expected code : Nat) : Bool :=
            if modes.ignoreCase then modes.lower expected == modes.lower code else expected == code
          if repeatText same text first cursor.position (stop - first) then
            next { cursor with position := cursor.position + (stop - first) }
          else none
  | .lookahead negated body, next, cursor =>
      match body.run text some cursor with
      | some reached =>
          if negated then none else next { reached with position := cursor.position }
      | none => if negated then next cursor else none
  | .lookbehind negated width body, next, cursor =>
      if cursor.position < width then (if negated then next cursor else none)
      else
        match body.run text some { cursor with position := cursor.position - width } with
        | some reached =>
            if negated then none else next { reached with position := cursor.position }
        | none => if negated then next cursor else none
  | .atomic body, next, cursor =>
      match body.run text some cursor with
      | some reached => next reached
      | none => none
  | .conditional number taken missing, next, cursor =>
      if (cursor.span? number).isSome then taken.run text next cursor
      else missing.run text next cursor

end Node

/-- A place where a pattern matches, and the texts of its named groups. -/
structure Match where
  first : Nat
  stop : Nat
  captures : List (String × Option String)
  deriving DecidableEq, Repr

namespace Pattern

def slice (text : Array Char) (first stop : Nat) : String :=
  String.ofList (text.extract first stop).toList

/-- The match of a pattern that starts at a place. -/
def matchAt? (pattern : Pattern) (text : Array Char) (first : Nat) : Option Match :=
  (pattern.root.run text some (Cursor.start pattern.groups first)).map fun cursor =>
    { first
      stop := cursor.position
      captures := pattern.names.map fun (name, number) =>
        (name, (cursor.span? number).map fun (first, stop) => slice text first stop) }

def search? (pattern : Pattern) (text : String) : Option Match :=
  let chars := text.toList.toArray
  (List.range (chars.size + 1)).findSome? (pattern.matchAt? chars)

end Pattern

end ReleaseWatch
