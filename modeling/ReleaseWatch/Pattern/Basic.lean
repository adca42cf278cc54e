import ReleaseWatch.Text.Blank
import ReleaseWatch.Text.LetterCase
import ReleaseWatch.Text.Numeral
import ReleaseWatch.Text.Word

/-!
# Patterns

The parts of a pattern, and the texts of one character that a test accepts. How a part reads its
characters depends on the modes in force where it stands, so these are kept with it.

A character class that ignores case compares lower case forms. Its single characters beyond the
basic plane are compared as they are written, and its ranges that reach beyond it are tried with
the lower case form and with that form's upper case.
-/

namespace ReleaseWatch

/-- The modes in which a part of a pattern is read. -/
structure Modes where
  ignoreCase : Bool := false
  /-- Whether anchors of the text hold at each of its lines. -/
  multiline : Bool := false
  /-- Whether the dot stands for line ends too. -/
  dotAll : Bool := false
  /-- Whether white space and comments between the parts of a pattern are skipped. -/
  verbose : Bool := false
  /-- Whether the categories and letter case know the basic characters only. -/
  ascii : Bool := false
  /-- Whether the wide alphabet was asked for by name. -/
  unicode : Bool := false
  /-- Whether the pattern is a template, in which nothing can be repeated. -/
  template : Bool := false
  deriving DecidableEq, Repr

inductive Category where
  | digit
  | space
  | word
  deriving DecidableEq, Repr

namespace Category

/-- Whether a code point is a basic letter or digit or the underscore. -/
def isBasicWord (code : Nat) : Bool :=
  (0x30 ≤ code && code ≤ 0x39) || (0x41 ≤ code && code ≤ 0x5A) || code == 0x5F ||
    (0x61 ≤ code && code ≤ 0x7A)

def holds (ascii : Bool) (code : Nat) : Category → Bool
  | .digit =>
      if ascii then 0x30 ≤ code && code ≤ 0x39 else decimalDigitRanges.contains code
  | .space =>
      if ascii then (0x09 ≤ code && code ≤ 0x0D) || code == 0x20 else isBlankCode code
  | .word => if ascii then isBasicWord code else isWordCode code

end Category

inductive ClassItem where
  | code (code : Nat)
  | range (first last : Nat)
  | category (negated : Bool) (category : Category)
  deriving DecidableEq, Repr

/-- What a single character is tested for. -/
inductive CharTest where
  | code (negated : Bool) (code : Nat)
  /-- Any character; a line end only where the dot stands for it. -/
  | any
  | items (negated : Bool) (items : List ClassItem)
  deriving DecidableEq, Repr

def basicPlaneEnd : Nat := 0xFFFF

namespace Modes

def lower (modes : Modes) (code : Nat) : Nat :=
  if modes.ascii then lowerBasicCode code else lowerCode code

/-- The code points that agree with one, given that case is ignored. -/
def variants (modes : Modes) (code : Nat) : List Nat :=
  if modes.ascii then basicCaseVariants code else caseVariants code

end Modes

namespace ClassItem

/-- Whether a code point belongs to a member where case matters. -/
def holds (ascii : Bool) (code : Nat) : ClassItem → Bool
  | .code member => code == member
  | .range first last => first ≤ code && code ≤ last
  | .category negated kind => kind.holds ascii code != negated

/-- Whether a code point belongs to a member where case is ignored. -/
def holdsFolded (modes : Modes) (code : Nat) : ClassItem → Bool
  | .code member =>
      if member ≤ basicPlaneEnd then (modes.variants code).contains member
      else modes.lower code == member
  | .range first last =>
      let lower := modes.lower code
      let upper := upperCode lower
      ((modes.variants code).any fun variant =>
        variant ≤ basicPlaneEnd && first ≤ variant && variant ≤ last) ||
      (basicPlaneEnd < last &&
        ((first ≤ lower && lower ≤ last) || (first ≤ upper && upper ≤ last)))
  | .category negated kind => kind.holds modes.ascii code != negated

end ClassItem

namespace CharTest

/-- Whether a code point passes a test. -/
def accepts (modes : Modes) (code : Nat) : CharTest → Bool
  | .code negated member =>
      (if modes.ignoreCase then (modes.variants member).contains code else code == member) !=
        negated
  | .any => modes.dotAll || code != 0x0A
  | .items negated members =>
      (if modes.ignoreCase then members.any (·.holdsFolded modes code)
        else members.any (·.holds modes.ascii code)) != negated

end CharTest

/--
Which of several numbers of rounds a repetition tries first; a possessive one does not go back.
-/
inductive Greed where
  | greedy
  | lazy
  | possessive
  deriving DecidableEq, Repr

/-- A place that a pattern can ask for. -/
inductive Anchor where
  | textStart
  | textEnd
  | lineStart
  | lineEnd
  /-- The end of the text, or before the line end that ends it. -/
  | lastLineEnd
  | wordEdge (negated : Bool) (ascii : Bool)
  deriving DecidableEq, Repr

/-- How many characters a part may take; without `most` there is no bound. -/
structure Width where
  least : Nat
  most : Option Nat
  deriving DecidableEq, Repr

namespace Width

def add (first second : Width) : Width where
  least := first.least + second.least
  most := match first.most, second.most with
    | some first, some second => some (first + second)
    | _, _ => none

def either (first second : Width) : Width where
  least := min first.least second.least
  most := match first.most, second.most with
    | some first, some second => some (max first second)
    | _, _ => none

def rounds (width : Width) (least : Nat) (most : Option Nat) : Width where
  least := width.least * least
  most := match width.most, most with
    | some width, some most => some (width * most)
    | some 0, none => some 0
    | some _, none => none
    | none, some 0 => some 0
    | none, _ => none

end Width

inductive Node where
  | empty
  | one (modes : Modes) (test : CharTest)
  | anchor (anchor : Anchor)
  | sequence (first second : Node)
  | choice (first second : Node)
  | repetition (greed : Greed) (least : Nat) (most : Option Nat) (body : Node)
  | group (number : Nat) (body : Node)
  /-- The text that a group took, once more. -/
  | reference (modes : Modes) (number : Nat) (width : Width)
  | lookahead (negated : Bool) (body : Node)
  | lookbehind (negated : Bool) (width : Nat) (body : Node)
  /-- A part that is not entered again once it has matched. -/
  | atomic (body : Node)
  /-- One part if a group has taken something, and another if not. -/
  | conditional (number : Nat) (taken missing : Node)
  deriving Repr

namespace Node

def width : Node → Width
  | .empty | .anchor _ | .lookahead .. | .lookbehind .. => ⟨0, some 0⟩
  | .one .. => ⟨1, some 1⟩
  | .sequence first second => first.width.add second.width
  | .choice first second => first.width.either second.width
  | .repetition _ least most body => body.width.rounds least most
  | .group _ body | .atomic body => body.width
  | .reference _ _ width => width
  | .conditional _ taken missing => taken.width.either missing.width

def ofSequence : List Node → Node
  | [] => .empty
  | [node] => node
  | node :: rest => .sequence node (ofSequence rest)

/-- One of several parts, the first that leads to a match. -/
def ofChoices : List Node → Node
  | [] => .empty
  | [node] => node
  | node :: rest => .choice node (ofChoices rest)

end Node

/-- A pattern that can be searched for. -/
structure Pattern where
  root : Node
  groups : Nat
  /-- The names of groups with their numbers, by increasing number. -/
  names : List (String × Nat)
  deriving Repr

end ReleaseWatch
