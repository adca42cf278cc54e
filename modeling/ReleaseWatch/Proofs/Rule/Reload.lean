import Mathlib.Data.List.Forall2
import ReleaseWatch.Proofs.Latest
import ReleaseWatch.Proofs.Rule.Building
import ReleaseWatch.Rule.Filter

/-!
# Reloading rules

A rule set is compiled from settings as a whole: every fragment has to give a rule, which is named
by its list and its place there, and every tie-break key has to name something of an info. A
filter is loaded again and again, with settings that compile and settings that do not, and in
between it judges entries. At any time the rule set in force is the one that the latest settings
that compiled were compiled to, and nothing of any others.
-/

namespace ReleaseWatch

namespace Rule

/-- The rules that numbered fragments give, each of them named by its place. -/
def ReadFrom (definitions : Mapping) (kind : String) (fragments : List (Value × Nat))
    (rules : List Rule) : Prop :=
  List.Forall₂ (fun fragment rule => rule.name = nameAt kind fragment.2 ∧
    ofFragment definitions (nameAt kind fragment.2) fragment.1 = .ok rule) fragments rules

theorem name_of_ofFragment {definitions : Mapping} {name : String} {fragment : Value} {rule : Rule}
    (made : ofFragment definitions name fragment = .ok rule) : rule.name = name := by
  unfold ofFragment at made
  split at made
  · unfold ofFields at made
    split at made
    · cases made
    · rcases Outcome.map_eq_ok_iff.mp made with ⟨clauses, _, rfl⟩
      rfl
  · cases made

theorem listFrom_eq_ok_iff {definitions : Mapping} {kind : String} {start : Nat}
    {fragments : List Value} {rules : List Rule} :
    listFrom definitions kind start fragments = .ok rules ↔
      ReadFrom definitions kind (fragments.zipIdx start) rules := by
  induction fragments generalizing start rules with
  | nil => simp [listFrom, ReadFrom, eq_comm]
  | cons fragment rest ih =>
      simp only [listFrom, bind, Outcome.bind_eq_ok_iff, List.zipIdx_cons, ReadFrom,
        List.forall₂_cons_left_iff]
      constructor
      · rintro ⟨rule, made, others, madeRest, same⟩
        cases same
        exact ⟨rule, others, ⟨name_of_ofFragment made, made⟩, ih.mp madeRest, rfl⟩
      · rintro ⟨rule, others, ⟨_, made⟩, madeRest, rfl⟩
        exact ⟨rule, made, others, ih.mpr madeRest, rfl⟩

end Rule

namespace RuleSet

/--
A rule set is what settings are compiled to: all
of its parts come from them, and none is left out.
-/
structure CompiledFrom (rules : RuleSet) (settings : FilterSettings) : Prop where
  known : ∀ label ∈ settings.tieBreak, ∃ key, InfoKey.ofLabel? label = some key
  deny : Rule.ReadFrom settings.definitions "deny" settings.deny.zipIdx rules.deny
  accept : Rule.ReadFrom settings.definitions "accept" settings.accept.zipIdx rules.accept
  tieBreak_eq : rules.tieBreak = settings.tieBreak

theorem unknownKeys_eq_nil_iff {tieBreak : List String} :
    unknownKeys tieBreak = [] ↔
      ∀ label ∈ tieBreak, ∃ key, InfoKey.ofLabel? label = some key := by
  simp [unknownKeys, List.filter_eq_nil_iff, Option.ne_none_iff_exists']

theorem ofSettings_eq_ok_iff {settings : FilterSettings} {rules : RuleSet} :
    ofSettings settings = .ok rules ↔ rules.CompiledFrom settings := by
  unfold ofSettings
  split
  · rename_i known
    rw [unknownKeys_eq_nil_iff] at known
    simp only [bind, Outcome.bind_eq_ok_iff, Rule.ofFragments, Rule.listFrom_eq_ok_iff]
    constructor
    · rintro ⟨deny, readDeny, accept, readAccept, same⟩
      cases same
      exact ⟨known, readDeny, readAccept, rfl⟩
    · rintro ⟨_, readDeny, readAccept, tieBreak_eq⟩
      refine ⟨rules.deny, readDeny, rules.accept, readAccept, ?_⟩
      rw [← tieBreak_eq]
      rfl
  · rename_i unknown
    constructor
    · intro never
      cases never
    · intro compiled
      exact absurd (unknownKeys_eq_nil_iff.mpr compiled.known) (by simpa using unknown)

end RuleSet

/--
What a filter can be asked for; entries are judged by
the rule set in force unless another one is given.
-/
inductive FilterCall where
  | load (settings : FilterSettings)
  | evaluate (entry : Entry) (explicit : Option RuleSet)
  | accept (entries : List Entry) (explicit : Option RuleSet)

inductive FilterAnswer where
  | loaded (rules : Logged RuleSet)
  | evaluated (result : Logged (Option Entry))
  | accepted (result : Logged (List Entry))

/-- A call loads settings that give a rule set. -/
def FilterCall.Compiles (call : FilterCall) (rules : RuleSet) : Prop :=
  ∃ settings, call = .load settings ∧ RuleSet.ofSettings settings = .ok rules

/-- The answer to a call while a rule set is in force. -/
def RuleSet.answer (rules : RuleSet) : FilterCall → FilterAnswer
  | .load settings => .loaded (Filter.read settings)
  | .evaluate entry none => .evaluated (rules.evaluate entry)
  | .evaluate entry (some given) => .evaluated (given.evaluate entry)
  | .accept entries none => .accepted (rules.accepted entries)
  | .accept entries (some given) => .accepted (given.accepted entries)

namespace Filter

/-- Answers a call. -/
def answer (filter : Filter) : FilterCall → Filter × FilterAnswer
  | .load settings => ((filter.load settings).1, .loaded (filter.load settings).2)
  | .evaluate entry explicit => (filter, .evaluated (filter.evaluate entry explicit))
  | .accept entries explicit => (filter, .accepted (filter.accept entries explicit))

/-- Answers calls one after the other. -/
def serve (filter : Filter) : List FilterCall → Filter × List FilterAnswer
  | [] => (filter, [])
  | call :: rest =>
      let (next, answer) := filter.answer call
      let (last, answers) := next.serve rest
      (last, answer :: answers)

variable {filter : Filter}

theorem read_outcome (settings : FilterSettings) :
    (read settings).outcome = RuleSet.ofSettings settings := by
  rw [read, Logged.outcome_bind, Logged.outcome_ofExcept]
  cases RuleSet.ofSettings settings <;> simp

/-- The rules of settings are put in force all together, or not at all. -/
theorem load_cases (filter : Filter) (settings : FilterSettings) :
    (∃ rules, RuleSet.ofSettings settings = .ok rules ∧
      (filter.load settings).1 = { active := rules }) ∨
      ∃ failure, RuleSet.ofSettings settings = .error failure ∧
        (filter.load settings).1 = filter := by
  unfold load
  simp only [read_outcome]
  cases RuleSet.ofSettings settings with
  | error failure => exact Or.inr ⟨failure, rfl, rfl⟩
  | ok rules => exact Or.inl ⟨rules, rfl, rfl⟩

theorem load_of_compiled (filter : Filter) {settings : FilterSettings} {rules : RuleSet}
    (compiled : RuleSet.ofSettings settings = .ok rules) :
    (filter.load settings).1 = { active := rules } := by
  rcases filter.load_cases settings with
    ⟨other, compiled', replaced⟩ | ⟨failure, refused, _⟩
  · cases compiled.symm.trans compiled'
    exact replaced
  · cases compiled.symm.trans refused

theorem load_snd (filter : Filter) (settings : FilterSettings) :
    (filter.load settings).2 = read settings := by
  unfold load
  dsimp only
  split <;> rfl

/-- What is in force changes only with a call that compiles. -/
theorem answer_cases (filter : Filter) (call : FilterCall) :
    call.Compiles (filter.answer call).1.active ∨
      (∀ rules, ¬call.Compiles rules) ∧ (filter.answer call).1 = filter := by
  cases call with
  | load settings =>
      rcases filter.load_cases settings with
        ⟨rules, compiled, loaded⟩ | ⟨failure, refused, kept⟩
      · left
        refine ⟨settings, rfl, ?_⟩
        rw [answer, loaded]
        exact compiled
      · right
        refine ⟨?_, kept⟩
        rintro rules ⟨other, same, compiled⟩
        cases same
        rw [compiled] at refused
        cases refused
  | evaluate entry explicit =>
      right
      refine ⟨?_, rfl⟩
      rintro rules ⟨settings, never, _⟩
      cases never
  | accept entries explicit =>
      right
      refine ⟨?_, rfl⟩
      rintro rules ⟨settings, never, _⟩
      cases never

theorem answer_snd (filter : Filter) (call : FilterCall) :
    (filter.answer call).2 = filter.active.answer call := by
  cases call with
  | load settings => exact congrArg FilterAnswer.loaded (filter.load_snd settings)
  | evaluate entry explicit => cases explicit <;> rfl
  | accept entries explicit => cases explicit <;> rfl

/--
Whatever is latest behind a call from the rules that it leaves is latest from the rules before it.
-/
theorem isLatest_cons {call : FilterCall} {rest : List FilterCall} {rules : RuleSet}
    (latest : IsLatest FilterCall.Compiles (filter.answer call).1.active rest rules) :
    IsLatest FilterCall.Compiles filter.active (call :: rest) rules := by
  rcases filter.answer_cases call with compiles | ⟨silent, kept⟩
  · exact latest.cons_of_gives compiles
  · rw [kept] at latest
    exact latest.cons_of_not_gives silent

theorem isLatest_serve (filter : Filter) (calls : List FilterCall) :
    IsLatest FilterCall.Compiles filter.active calls (filter.serve calls).1.active := by
  induction calls generalizing filter with
  | nil => exact IsLatest.nil filter.active
  | cons call rest ih => exact isLatest_cons (ih (filter.answer call).1)

theorem length_serve (filter : Filter) (calls : List FilterCall) :
    (filter.serve calls).2.length = calls.length := by
  induction calls generalizing filter with
  | nil => rfl
  | cons call rest ih => exact congrArg (· + 1) (ih (filter.answer call).1)

theorem getElem?_serve (filter : Filter) {calls : List FilterCall} {index : Nat} {call : FilterCall}
    (called : calls[index]? = some call) :
    ∃ rules, IsLatest FilterCall.Compiles filter.active (calls.take index) rules ∧
      (filter.serve calls).2[index]? = some (rules.answer call) := by
  induction calls generalizing filter index with
  | nil => cases called
  | cons first rest ih =>
      cases index with
      | zero =>
          cases called
          exact ⟨filter.active, IsLatest.nil filter.active,
            congrArg some (filter.answer_snd call)⟩
      | succ index =>
          rcases ih (filter.answer first).1 called with ⟨rules, latest, answered⟩
          exact ⟨rules, isLatest_cons latest, answered⟩

theorem compiles_functional (call : FilterCall) (first second : RuleSet)
    (compiles : call.Compiles first) (compiles' : call.Compiles second) : first = second := by
  rcases compiles with ⟨settings, rfl, compiled⟩
  rcases compiles' with ⟨_, same, compiled'⟩
  cases same
  rw [compiled] at compiled'
  exact Except.ok.inj compiled'

/--
However a new filter is used, the rules in force are
those of the latest settings that compiled, in full.
-/
theorem serve_uses_latest_compiled (calls : List FilterCall) :
    (∀ rules, (({} : Filter).serve calls).1.active = rules ↔
      IsLatest FilterCall.Compiles {} calls rules) ∧
    ((({} : Filter).serve calls).1.active = {} ∨
      ∃ settings, .load settings ∈ calls ∧
        (({} : Filter).serve calls).1.active.CompiledFrom settings) ∧
    (({} : Filter).serve calls).2.length = calls.length ∧
    ∀ index call, calls[index]? = some call →
      ∃ rules, IsLatest FilterCall.Compiles {} (calls.take index) rules ∧
        (({} : Filter).serve calls).2[index]? = some (rules.answer call) := by
  have latest := isLatest_serve {} calls
  refine ⟨?_, ?_, length_serve {} calls, fun index call => getElem?_serve {}⟩
  · intro rules
    constructor
    · rintro rfl
      exact latest
    · exact fun latest' => latest.unique compiles_functional latest'
  · rcases latest with
      ⟨earlier, call, later, rfl, ⟨settings, rfl, compiled⟩, _⟩ | ⟨_, same⟩
    · right
      exact ⟨settings, by simp, RuleSet.ofSettings_eq_ok_iff.mp compiled⟩
    · exact Or.inl same

end Filter

namespace Relapse

def good : FilterSettings where
  tieBreak := ["ver"]

def misspelt : FilterSettings where
  tieBreak := ["version"]

def calls : List FilterCall :=
  [.load good, .load misspelt, .accept [] none]

/-- Behind a good load and a bad one the good rules answer. -/
theorem serve_uses_latest_compiled_of_relapse :
    (({} : Filter).serve calls).1.active = { tieBreak := ["ver"] } ∧
    IsLatest FilterCall.Compiles {} calls { tieBreak := ["ver"] } ∧
    ∃ rules, IsLatest FilterCall.Compiles {} (calls.take 2) rules ∧
      (({} : Filter).serve calls).2[2]? = some (rules.answer (.accept [] none)) := by
  have served := Filter.serve_uses_latest_compiled calls
  rcases served with ⟨active_iff, _, _, answers⟩
  have active : (({} : Filter).serve calls).1.active = { tieBreak := ["ver"] } := by rfl
  exact ⟨active, (active_iff _).mp active, answers 2 (.accept [] none) rfl⟩

end Relapse

end ReleaseWatch
