import ReleaseWatch.Failure

/-!
# Release info

What the named groups of a title pattern say about a release: the series and the episodes
it covers, and how it was made. A number that was not captured is -1, and a text that was
not captured is missing.

Two infos are compared by name, episode, and then the given tie-break keys in order. A
missing text comes before every text, the empty one included, and episode ranges are compared
by start and then by stop.
-/

namespace ReleaseWatch

/-- What an info can be asked for. -/
inductive InfoKey where
  | name
  | ep
  | endep
  | ver
  | crc
  | group
  | res
  | bit
  | eps
  deriving DecidableEq, Repr

namespace InfoKey

/-- The keys that are captured by title patterns. -/
def captured : List InfoKey :=
  [.name, .ep, .endep, .ver, .crc, .group, .res, .bit]

/-- Every key, the derived range of episodes last. -/
def all : List InfoKey :=
  captured ++ [.eps]

/-- How rules and settings write a key. -/
def label : InfoKey → String
  | .name => "name"
  | .ep => "ep"
  | .endep => "endep"
  | .ver => "ver"
  | .crc => "crc"
  | .group => "group"
  | .res => "res"
  | .bit => "bit"
  | .eps => "eps"

def ofLabel? (text : String) : Option InfoKey :=
  all.find? (·.label == text)

/-- Whether the key has a number, or a range of numbers, in every info. -/
def isNumeric : InfoKey → Bool
  | .name | .crc | .group => false
  | _ => true

end InfoKey

/-- The facts about a release that its title gave away. -/
structure Info where
  name : Option String
  ep : Int
  endep : Int
  ver : Int := -1
  crc : Option String := none
  group : Option String := none
  res : Int := -1
  bit : Int := -1
  /-- The labels of the groups that the title pattern has. -/
  captured : List String := []
  deriving DecidableEq

/-- What an info holds under a key. -/
inductive InfoValue where
  | text (content : Option String)
  | number (value : Int)
  /-- The episodes from `first` up to but without `stop`. -/
  | range (first stop : Int)
  deriving DecidableEq

namespace Info

def get (info : Info) : InfoKey → InfoValue
  | .name => .text info.name
  | .ep => .number info.ep
  | .endep => .number info.endep
  | .ver => .number info.ver
  | .crc => .text info.crc
  | .group => .text info.group
  | .res => .number info.res
  | .bit => .number info.bit
  | .eps => .range info.ep (info.endep + 1)

/-- Whether a rule may check the key: numbers always, texts if the title pattern has their group. -/
def isChecked (info : Info) (key : InfoKey) : Bool :=
  key.isNumeric || info.captured.contains key.label

def keys (info : Info) : List InfoKey :=
  InfoKey.all.filter info.isChecked

/-- The series and episode that a release is a version of. -/
def identity (info : Info) : Option String × Int :=
  (info.name, info.ep)

end Info

namespace InfoValue

/-- Texts in the order of their code points, with the missing text before all of them. -/
def compareText : Option String → Option String → Ordering
  | none, none => .eq
  | none, some _ => .lt
  | some _, none => .gt
  | some left, some right => compare left right

/-- The order of two values under one key; values of different kinds do not meet. -/
def order : InfoValue → InfoValue → Ordering
  | .text left, .text right => compareText left right
  | .number left, .number right => compare left right
  | .range left leftStop, .range right rightStop =>
      (compare left right).then (compare leftStop rightStop)
  | _, _ => .eq

end InfoValue

/-- The parts of a comparison, most important first. -/
abbrev SortKey := List InfoValue

namespace SortKey

/-- The order of two keys that were made for the same list of info keys. -/
def order : SortKey → SortKey → Ordering
  | left :: lefts, right :: rights => (left.order right).then (order lefts rights)
  | _, _ => .eq

end SortKey

namespace Info

/-- The parts that tie-break keys add, in order; a text that writes no key fails. -/
def tieBreakParts (info : Info) : List String → Except Failure SortKey
  | [] => .ok []
  | label :: rest =>
      match InfoKey.ofLabel? label with
      | none => .error (.unknownInfoKey label)
      | some key => (tieBreakParts info rest).map (info.get key :: ·)

def sortKey (info : Info) (tieBreak : List String) : Except Failure SortKey :=
  (info.tieBreakParts tieBreak).map fun parts =>
    .text info.name :: .number info.ep :: parts

def compareBy (tieBreak : List String) (left right : Info) : Except Failure Ordering := do
  let leftKey ← left.sortKey tieBreak
  let rightKey ← right.sortKey tieBreak
  return leftKey.order rightKey

end Info

end ReleaseWatch
