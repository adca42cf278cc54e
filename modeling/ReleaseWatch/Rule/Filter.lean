import ReleaseWatch.Log
import ReleaseWatch.Rule.Matching

/-!
# Filtering

An entry is accepted when no deny rule matches it and some accept rule does; it then carries the
info of the first accept rule that matches. A filter holds the rule set in force, which is
replaced as a whole or stays.
-/

namespace ReleaseWatch

/-- What a rule set makes of an entry. -/
inductive Verdict where
  | denied (found : RuleMatch)
  | accepted (found : RuleMatch)
  | ignored
  deriving DecidableEq

namespace RuleSet

/-- What a rule set makes of an entry; deny rules come first. -/
def judge (rules : RuleSet) (entry : Entry) : Except Failure Verdict := do
  match ← Rule.firstMatch? entry rules.deny with
  | some found => return .denied found
  | none =>
      match ← Rule.firstMatch? entry rules.accept with
      | some found => return .accepted found
      | none => return .ignored

/-- Writes what a verdict is based on, and gives the entry if it was accepted. -/
def settle (entry : Entry) : Verdict → Logged (Option Entry)
  | .denied found => do
      Logged.write .debug ("Denied " ++ entry.description ++ " by " ++ found.rule)
      return none
  | .accepted found => do
      Logged.write .debug
        ("Accepted " ++ entry.description ++ " by " ++ found.rule ++ " (" ++ found.reason ++ ")")
      return some { entry with info := found.info }
  | .ignored => return none

/-- The entry with its info if the rule set accepts it. -/
def evaluate (rules : RuleSet) (entry : Entry) : Logged (Option Entry) := do
  let verdict ← Logged.ofExcept (rules.judge entry)
  settle entry verdict

def accepted (rules : RuleSet) : List Entry → Logged (List Entry)
  | [] => return []
  | entry :: rest => do
      let result ← rules.evaluate entry
      let others ← rules.accepted rest
      return result.toList ++ others

end RuleSet

/-- A filter with the rule set in force. -/
structure Filter where
  active : RuleSet := {}

namespace Filter

/-- The rules of settings, which are refused as a whole if one of them is unusable. -/
def read (settings : FilterSettings) : Logged RuleSet := do
  let rules ← Logged.ofExcept (RuleSet.ofSettings settings)
  Logged.write .info
    (toString rules.deny.length ++ " deny and " ++ toString rules.accept.length ++
      " accept rules are loaded")
  return rules

/-- Puts the rules of settings in force; unusable ones leave the filter as it is. -/
def load (filter : Filter) (settings : FilterSettings) : Filter × Logged RuleSet :=
  let rules := read settings
  match rules.outcome with
  | .ok active => ({ active }, rules)
  | .error _ => (filter, rules)

/-- The entry with its info if it is accepted, by the given rule set or else by the one in force. -/
def evaluate (filter : Filter) (entry : Entry) (explicit : Option RuleSet := none) :
    Logged (Option Entry) :=
  (explicit.getD filter.active).evaluate entry

/-- The accepted ones of several entries, by the given rule set or else by the one in force. -/
def accept (filter : Filter) (entries : List Entry) (explicit : Option RuleSet := none) :
    Logged (List Entry) :=
  (explicit.getD filter.active).accepted entries

end Filter

end ReleaseWatch
