import ReleaseWatch.Rule.Basic

/-!
# Matching rules

A rule matches an entry when its field matchers hold, its other selectors name groups of its
title pattern, and the info that the title gives passes the checks. A selector that names no
group is an error, but only for an entry that gets that far. Numbers are compared by the integer
at the start of what is expected.

A match says why it is one, and so every check is written down once it is passed. An integer that
is too long to be written is a failure there.
-/

namespace ReleaseWatch

namespace Value

def agreesWith (content : Scalar) : Value → Bool
  | .scalar expected => content.agrees expected
  | _ => false

/-- The integer that a value stands for in a comparison of numbers. -/
def leadingInteger : Value → Except Failure Int
  | .scalar (.bool value) => .ok (if value then 1 else 0)
  | .scalar (.int value) => .ok value
  | .null => .ok 0
  | value => do
      let text ← value.toText
      ReleaseWatch.leadingInteger text

/-- Whether what an info holds is as a value that is no list expects. -/
def admitsOne (actual : InfoValue) (expected : Value) : Except Failure Bool :=
  match actual with
  | .range first stop => do
      let wanted ← expected.leadingInteger
      return first ≤ wanted && wanted < stop
  | .number value => do
      let wanted ← expected.leadingInteger
      return value == wanted
  | .text content => .ok (expected.agreesWith (Entry.optionalText content))

mutual

/-- Whether what an info holds is as expected; of a list, one element has to be. -/
def admits (actual : InfoValue) : Value → Except Failure Bool
  | .list items => anyAdmits actual items
  | .scalar content => admitsOne actual (.scalar content)
  | .mapping fields => admitsOne actual (.mapping fields)

/-- Whether what an info holds is as one of the values expects, tried from left to right. -/
def anyAdmits (actual : InfoValue) : List Value → Except Failure Bool
  | [] => .ok false
  | item :: rest => do
      if ← item.admits actual then return true
      else anyAdmits actual rest

end

end Value

/-- A rule's match with an entry, and why it matched. -/
structure RuleMatch where
  rule : String
  reason : String
  info : Option Info
  deriving DecidableEq

namespace Matcher

/-- Whether a matcher that is no pattern holds of an entry; patterns are searched for apart. -/
def holds (entry : Entry) : Matcher → Bool
  | .titlePattern _ => true
  | .anyOf _ field values =>
      entry.field field != .null && values.any (·.agreesWith (entry.field field))
  | .equal _ field value => value.agreesWith (entry.field field)

def title? : Matcher → Option TitlePattern
  | .titlePattern title => some title
  | _ => none

end Matcher

namespace Rule

def title? (rule : Rule) : Option TitlePattern :=
  rule.matchers.findSome? Matcher.title?

/-- Whether a selector names a group; the range of episodes is derived from the first one. -/
def isBound (captures : Captures) (selector : String) : Bool :=
  captures.hasGroup selector || (selector == "eps" && captures.hasGroup "ep")

/-- The failure of a selector that names no group. -/
def unbound (rule : Rule) (entry : Entry) (selector : String) : Failure :=
  .configuration (.unboundSelector selector rule.name entry.description)

/-- Refuses a rule with a selector that names no group, the first one in order. -/
def checkGates (rule : Rule) (entry : Entry) (captures : Captures) : Except Failure Unit :=
  match rule.gates.find? fun gate => !isBound captures gate.selector with
  | none => .ok ()
  | some gate => .error (rule.unbound entry gate.selector)

/-- Whether an info passes the checks of a rule, tried in order. -/
def passes (info : Info) : List (InfoKey × Value) → Except Failure Bool
  | [] => .ok true
  | (key, expected) :: rest =>
      if info.isChecked key then do
        if ← expected.admits (info.get key) then passes info rest
        else return false
      else passes info rest

/--
The checks that are tried: none of those behind a check that cannot be written once it is passed.
-/
def triedChecks (info : Info) : List (InfoKey × Value) → List (InfoKey × Value)
  | [] => []
  | check :: rest =>
      if info.isChecked check.1 && check.2.hasLongInteger then [check]
      else check :: triedChecks info rest

/-- The checks of an info, written in order. -/
def writtenChecks (info : Info) : List (InfoKey × Value) → Except Failure (List String)
  | [] => .ok []
  | (key, expected) :: rest =>
      if info.isChecked key then do
        let text ← expected.toText
        let others ← writtenChecks info rest
        return (key.label ++ "=" ++ text) :: others
      else writtenChecks info rest

/-- What a match says of itself: the pattern, and every check that was passed. -/
def reason (title : TitlePattern) (info : Info) (checks : List (InfoKey × Value)) :
    Except Failure String :=
  (writtenChecks info checks).map fun written =>
    "; ".intercalate (("title ~ /" ++ title.text ++ "/") :: written)

/-- The match of a rule whose field matchers hold and whose title pattern was found. -/
def matchFound (rule : Rule) (entry : Entry) (title : TitlePattern) (found : Match) :
    Except Failure (Option RuleMatch) := do
  rule.checkGates entry found.captures
  let info ← Captures.info found.captures
  if ← passes info (triedChecks info rule.infoChecks) then
    let reason ← reason title info rule.infoChecks
    return some { rule := rule.name, reason, info := some info }
  else return none

/-- The match of a rule without a title pattern whose field matchers hold. -/
def matchFields (rule : Rule) (entry : Entry) : Except Failure (Option RuleMatch) := do
  rule.checkGates entry []
  return some { rule := rule.name, reason := "fields", info := none }

def match? (rule : Rule) (entry : Entry) : Except Failure (Option RuleMatch) :=
  if rule.matchers.all (·.holds entry) then
    match rule.title? with
    | none => rule.matchFields entry
    | some title =>
        match entry.title.bind title.search? with
        | none => .ok none
        | some found => rule.matchFound entry title found
  else .ok none

def firstMatch? (entry : Entry) : List Rule → Except Failure (Option RuleMatch)
  | [] => .ok none
  | rule :: rest => do
      match ← rule.match? entry with
      | some found => return some found
      | none => firstMatch? entry rest

end Rule

end ReleaseWatch
