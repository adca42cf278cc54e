import ReleaseWatch.Proofs.Outcome
import ReleaseWatch.Watch.Session

/-!
# How reading a settings document ends

Every section of a document can hold any value. What is of the wrong kind is told as a problem of
the settings, and a session goes on with the settings that it had. Two things are not told so and
end the session: an infinite number of seconds, which has no integer, and an integer in the feed
or in a tie-break key that is too long to be written as text. They come up only if everything that
is read before them is in order.

There is one equivalence for each section that says when it fails and how. The document is read
section by section, so that these put together say how the whole of it fails.
-/

namespace ReleaseWatch

namespace Value

variable {value : Value} {failure : Failure}

theorem toText_eq_error_iff :
    value.toText = .error failure ↔ value.hasLongInteger ∧ failure = .numeralTooLong := by
  unfold toText
  split
  · rename_i long
    simp [long, eq_comm]
  · rename_i short
    simp [short]

theorem exists_toText_eq_ok_iff :
    (∃ text, value.toText = .ok text) ↔ ¬value.hasLongInteger := by
  unfold toText
  split <;> simp_all

/-- Several values cannot be written if one of them cannot. -/
theorem toTexts_eq_error_iff {values : List Value} :
    toTexts values = .error failure ↔ (∃ value ∈ values, value.hasLongInteger) ∧
    failure = .numeralTooLong := by
  induction values with
  | nil => simp [toTexts]
  | cons value rest inductionHypothesis =>
      simp only [toTexts, bind, pure, Except.pure, Outcome.bind_eq_error_iff, toText_eq_error_iff,
        inductionHypothesis, reduceCtorEq, and_false, exists_false, or_false, exists_and_right,
        exists_toText_eq_ok_iff, List.mem_cons, exists_eq_or_imp]
      by_cases long : value.hasLongInteger <;> simp [long]

/-- A number without end. -/
def IsInfinite (value : Value) : Prop :=
  ∃ negative, value = .scalar (.real (.infinite negative))

theorem toInteger_eq_infinite_iff :
    value.toInteger = .error .infiniteInteger ↔ value.IsInfinite := by
  constructor
  · intro failed
    unfold toInteger at failed
    split at failed
    case h_4 number _ =>
      cases number with
      | infinite negative => exact ⟨negative, rfl⟩
      | notANumber => contradiction
      | finite negative significand exponent => cases failed
    case h_5 => split at failed <;> cases failed
    all_goals cases failed
  · rintro ⟨negative, rfl⟩
    rfl

end Value

namespace Settings

variable {value : Value} {failure : Failure} {fields : Mapping}

/-- A section that is a mapping, or that counts as left open. -/
def IsMappingSection (value : Value) : Prop :=
  value.isTruthy → ∃ fields, value = .mapping fields

/-- A section that is a list, or that counts as left open. -/
def IsListSection (value : Value) : Prop :=
  value.isTruthy → ∃ items, value = .list items

theorem mappingSection_eq_error_iff {problem : ConfigurationProblem} :
    mappingSection value problem = .error failure ↔
      ¬IsMappingSection value ∧ failure = .configuration problem := by
  unfold mappingSection IsMappingSection
  split
  · rename_i isTrue
    cases value <;> simp [isTrue, eq_comm]
  · rename_i isFalse
    simp [isFalse]

theorem ruleSection_eq_error_iff {name : String} :
    ruleSection fields name = .error failure ↔
      ¬IsListSection (fields.get name) ∧ failure = .configuration (.rulesNotList name) := by
  unfold ruleSection IsListSection
  generalize fields.get name = value
  split
  · rename_i isTrue
    cases value <;> simp [isTrue, eq_comm]
  · rename_i isFalse
    simp [isFalse]

theorem tieBreakSection_eq_ok_iff {keys : List Value} :
    tieBreakSection value = .ok keys ↔
      value = .null ∧ keys = [.text "res", .text "bit", .text "ver"] ∨ value = .list keys := by
  unfold tieBreakSection
  split <;> simp_all [eq_comm]

theorem tieBreakSection_eq_error_iff :
    tieBreakSection value = .error failure ↔
      ¬(value = .null ∨ ∃ keys, value = .list keys) ∧
      failure = .configuration .tieBreakNotList := by
  unfold tieBreakSection
  split <;> simp_all [eq_comm]

theorem feedSection_eq_ok_iff {feed : Value} :
    feedSection value = .ok feed ↔ value.isTruthy ∧ feed = value := by
  unfold feedSection
  split
  · rename_i isTrue
    simp [isTrue, eq_comm]
  · rename_i isFalse
    simp [isFalse]

theorem feedSection_eq_error_iff :
    feedSection value = .error failure ↔
      ¬value.isTruthy ∧ failure = .configuration .feedMissing := by
  unfold feedSection
  split
  · rename_i isTrue
    simp [isTrue]
  · rename_i isFalse
    simp [isFalse, eq_comm]

/-- The seconds are a whole number, or count as left open. -/
def IsSeconds (value : Value) : Prop :=
  value.isTruthy → ∃ seconds, value.toInteger = .ok seconds

theorem exists_pollSection_eq_ok_iff :
    (∃ seconds, pollSection value = .ok seconds) ↔ IsSeconds value := by
  unfold pollSection IsSeconds
  split
  · rename_i isTrue
    split <;> simp_all
  · rename_i isFalse
    simp [isFalse]

theorem pollSection_eq_infinite_iff :
    pollSection value = .error .infiniteInteger ↔ value.IsInfinite := by
  rw [← Value.toInteger_eq_infinite_iff]
  unfold pollSection
  split
  · split <;> simp_all
  · rename_i isFalse
    refine ⟨fun failed => (by cases failed), fun infinite => ?_⟩
    -- An infinite number counts as true.
    obtain ⟨negative, rfl⟩ := Value.toInteger_eq_infinite_iff.mp infinite
    exact absurd rfl isFalse

/-- Whatever is no number of seconds is told as a problem, unless it is infinite. -/
theorem eq_of_pollSection_eq_error (failed : pollSection value = .error failure) :
    failure = .infiniteInteger ∨ failure = .configuration .pollNotNumber := by
  unfold pollSection at failed
  split at failed
  · split at failed <;> cases failed
    · exact Or.inl rfl
    · exact Or.inr rfl
  · cases failed

/-- The feed is looked at and everything before it is in order, so that the seconds are read. -/
structure ReachesPoll (fields : Mapping) : Prop where
  definitions : IsMappingSection (fields.get "defines")
  tieBreak : fields.get "tie_break" = .null ∨ ∃ keys, fields.get "tie_break" = .list keys
  feed : (fields.get "rss").isTruthy

/-- The sections before the first text that is written are in order. -/
structure ReachesTexts (fields : Mapping) : Prop extends ReachesPoll fields where
  poll : IsSeconds (fields.get "poll")
  logging : IsMappingSection (fields.get "logging")

/--
The feed cannot be written as text, or the rules are lists and a tie-break key cannot be written.
-/
def HasLongText (fields : Mapping) : Prop :=
  (fields.get "rss").hasLongInteger ∨
    IsListSection (fields.get "accept") ∧ IsListSection (fields.get "deny") ∧
      ∃ keys, fields.get "tie_break" = .list keys ∧ ∃ key ∈ keys, key.hasLongInteger

theorem exists_mappingSection_eq_ok_iff {problem : ConfigurationProblem} :
    (∃ content, mappingSection value problem = .ok content) ↔ IsMappingSection value :=
  Outcome.exists_eq_ok_iff_of_eq_error_iff fun _ => mappingSection_eq_error_iff

theorem exists_ruleSection_eq_ok_iff {name : String} :
    (∃ rules, ruleSection fields name = .ok rules) ↔ IsListSection (fields.get name) :=
  Outcome.exists_eq_ok_iff_of_eq_error_iff fun _ => ruleSection_eq_error_iff

theorem exists_tieBreakSection_eq_ok_iff :
    (∃ keys, tieBreakSection value = .ok keys) ↔
      value = .null ∨ ∃ keys, value = .list keys :=
  Outcome.exists_eq_ok_iff_of_eq_error_iff fun _ => tieBreakSection_eq_error_iff

/-- The seconds are infinite, and nothing that is looked at before them is wrong. -/
theorem ofFields_eq_infinite_iff :
    ofFields fields = .error .infiniteInteger ↔
      ReachesPoll fields ∧ (fields.get "poll").IsInfinite := by
  -- One section after the other has a value or fails, and none but the seconds fails so.
  simp only [ofFields, bind, pure, Except.pure, Outcome.bind_eq_error_iff,
    mappingSection_eq_error_iff,
    tieBreakSection_eq_error_iff, feedSection_eq_ok_iff, feedSection_eq_error_iff,
    pollSection_eq_infinite_iff, ruleSection_eq_error_iff, Value.toText_eq_error_iff,
    Value.toTexts_eq_error_iff, exists_mappingSection_eq_ok_iff, exists_tieBreakSection_eq_ok_iff,
    reduceCtorEq, and_false, false_or, or_false, exists_false, exists_and_right, exists_and_left]
  constructor
  · rintro ⟨definitions, tieBreak, ⟨feed, -⟩, infinite⟩
    exact ⟨⟨definitions, tieBreak, feed⟩, infinite⟩
  · rintro ⟨⟨definitions, tieBreak, feed⟩, infinite⟩
    exact ⟨definitions, tieBreak, ⟨feed, _, rfl⟩, infinite⟩

/-- A text is too long, and nothing that is looked at before it is wrong. -/
theorem ofFields_eq_long_iff :
    ofFields fields = .error .numeralTooLong ↔ ReachesTexts fields ∧ HasLongText fields := by
  simp only [ofFields, bind, pure, Except.pure, Outcome.bind_eq_error_iff,
    mappingSection_eq_error_iff,
    tieBreakSection_eq_error_iff, feedSection_eq_ok_iff, feedSection_eq_error_iff,
    ruleSection_eq_error_iff, Value.toText_eq_error_iff, Value.toTexts_eq_error_iff,
    exists_mappingSection_eq_ok_iff, exists_ruleSection_eq_ok_iff, exists_pollSection_eq_ok_iff,
    reduceCtorEq, and_true, and_false, false_or, or_false, exists_false, exists_and_right]
  constructor
  · rintro ⟨definitions, keys, areKeys, url, ⟨feed, rfl⟩,
      failed | ⟨seconds, logging, written⟩⟩
    · rcases eq_of_pollSection_eq_error failed with impossible | impossible <;> cases impossible
    have tieBreak := exists_tieBreakSection_eq_ok_iff.mp ⟨keys, areKeys⟩
    refine ⟨⟨⟨definitions, tieBreak, feed⟩, seconds, logging⟩, written.imp_right ?_⟩
    rintro ⟨-, accept, deny, key, isKey, long⟩
    refine ⟨accept, deny, keys, ?_, key, isKey, long⟩
    rcases tieBreakSection_eq_ok_iff.mp areKeys with ⟨-, rfl⟩ | given
    · -- The usual keys are texts.
      simp only [List.mem_cons, List.not_mem_nil, or_false] at isKey
      rcases isKey with rfl | rfl | rfl <;> cases long
    · exact given
  · rintro ⟨⟨⟨definitions, tieBreak, feed⟩, seconds, logging⟩, written⟩
    by_cases long : (fields.get "rss").hasLongInteger
    · obtain ⟨keys, areKeys⟩ := exists_tieBreakSection_eq_ok_iff.mpr tieBreak
      exact ⟨definitions, keys, areKeys, _, ⟨feed, rfl⟩,
        Or.inr ⟨seconds, logging, Or.inl long⟩⟩
    · obtain ⟨accept, deny, keys, given, hasLong⟩ := written.resolve_left long
      have areKeys := tieBreakSection_eq_ok_iff.mpr (Or.inr given)
      have isText := Value.exists_toText_eq_ok_iff.mpr long
      exact ⟨definitions, keys, areKeys, _, ⟨feed, rfl⟩,
        Or.inr ⟨seconds, logging, Or.inr ⟨isText, accept, deny, hasLong⟩⟩⟩

/--
Either a problem of the settings, which the session survives, or one of the two other failures.
-/
def IsReadingFailure (failure : Failure) : Prop :=
  failure = .infiniteInteger ∨ failure = .numeralTooLong ∨
  ∃ problem, failure = .configuration problem

theorem IsReadingFailure.of_problem {problem : ConfigurationProblem}
    (told : failure = .configuration problem) :
    IsReadingFailure failure :=
  Or.inr (Or.inr ⟨problem, told⟩)

theorem IsReadingFailure.of_long (long : failure = .numeralTooLong) : IsReadingFailure failure :=
  Or.inr (Or.inl long)

theorem mappingSection_failsWithin {problem : ConfigurationProblem} :
    Outcome.FailsWithin IsReadingFailure (mappingSection value problem) :=
  fun _ failed => .of_problem (mappingSection_eq_error_iff.mp failed).2

theorem ruleSection_failsWithin {name : String} :
    Outcome.FailsWithin IsReadingFailure (ruleSection fields name) :=
  fun _ failed => .of_problem (ruleSection_eq_error_iff.mp failed).2

theorem pollSection_failsWithin : Outcome.FailsWithin IsReadingFailure (pollSection value) := by
  intro failure failed
  rcases eq_of_pollSection_eq_error failed with infinite | told
  · exact Or.inl infinite
  · exact .of_problem told

/--
The sections are read in the order in which they are listed here, up to the first one that fails.
-/
theorem ofFields_failsWithin : Outcome.FailsWithin IsReadingFailure (ofFields fields) := by
  refine .bind mappingSection_failsWithin fun _ => ?_
  refine .bind (fun _ failed => .of_problem (tieBreakSection_eq_error_iff.mp failed).2) fun _ => ?_
  refine .bind (fun _ failed => .of_problem (feedSection_eq_error_iff.mp failed).2) fun _ => ?_
  refine .bind pollSection_failsWithin fun _ => ?_
  refine .bind mappingSection_failsWithin fun _ => ?_
  refine .bind (fun _ failed => .of_long (Value.toText_eq_error_iff.mp failed).2) fun _ => ?_
  refine .bind ruleSection_failsWithin fun _ => ?_
  refine .bind ruleSection_failsWithin fun _ => ?_
  refine .bind (fun _ failed => .of_long (Value.toTexts_eq_error_iff.mp failed).2) fun _ => ?_
  exact Outcome.failsWithin_ok

/-- The seconds are read from the document, and they are infinite. -/
def AsksForInfinity (document : Value) : Prop :=
  ∃ fields : Mapping, document.withoutAnnotations = .mapping fields ∧
    ReachesPoll fields ∧ (fields.get "poll").IsInfinite

/--
The feed or a tie-break key is written as text, and it has an integer that is too long for that.
-/
def AsksForLongText (document : Value) : Prop :=
  ∃ fields, document.withoutAnnotations = .mapping fields ∧ ReachesTexts fields ∧
    HasLongText fields

theorem ofDocument_eq_error_iff {document : Value} :
    ofDocument document = .error failure ↔
      (∃ fields, document.withoutAnnotations = .mapping fields ∧
        ofFields fields = .error failure) ∨
        (¬∃ fields, document.withoutAnnotations = .mapping fields) ∧
          failure = .configuration .documentNotMapping := by
  cases document <;> simp [ofDocument, Value.withoutAnnotations, eq_comm]

theorem ofDocument_failsWithin (document : Value) :
    Outcome.FailsWithin IsReadingFailure (ofDocument document) := by
  intro failure failed
  rcases ofDocument_eq_error_iff.mp failed with ⟨fields, -, failed⟩ | ⟨-, told⟩
  · exact ofFields_failsWithin failure failed
  · exact .of_problem told

theorem ofDocument_eq_infinite_iff {document : Value} :
    ofDocument document = .error .infiniteInteger ↔ AsksForInfinity document := by
  simp [ofDocument_eq_error_iff, ofFields_eq_infinite_iff, AsksForInfinity]

theorem ofDocument_eq_long_iff {document : Value} :
    ofDocument document = .error .numeralTooLong ↔ AsksForLongText document := by
  simp [ofDocument_eq_error_iff, ofFields_eq_long_iff, AsksForLongText]

/--
A document states settings or is told to be unusable, unless it asks for infinitely many seconds
or for a text that is too long. These two end in failures of their own, which a session does not
survive; it survives exactly what is told as a problem of the settings.
-/
theorem ofDocument_outcome (document : Value) :
    (((∃ settings, ofDocument document = .ok settings) ∨
        ∃ problem, ofDocument document = .error (.configuration problem)) ↔
      ¬AsksForInfinity document ∧ ¬AsksForLongText document) ∧
    (ofDocument document = .error .infiniteInteger ↔ AsksForInfinity document) ∧
    (ofDocument document = .error .numeralTooLong ↔ AsksForLongText document) ∧
    ∀ failure, ofDocument document = .error failure →
      (Session.isSurvivable failure ↔ ∃ problem, failure = .configuration problem) := by
  refine ⟨?_, ofDocument_eq_infinite_iff, ofDocument_eq_long_iff, ?_⟩
  · rw [← ofDocument_eq_infinite_iff, ← ofDocument_eq_long_iff]
    constructor
    · rintro (⟨settings, succeeded⟩ | ⟨problem, told⟩)
      · simp [succeeded]
      · simp [told]
    · rintro ⟨notInfinite, notLong⟩
      cases ended : ofDocument document with
      | ok settings => exact Or.inl ⟨settings, rfl⟩
      | error failure =>
          rcases ofDocument_failsWithin document failure ended with rfl | rfl | ⟨problem, rfl⟩
          · exact absurd ended notInfinite
          · exact absurd ended notLong
          · exact Or.inr ⟨problem, rfl⟩
  · intro failure failed
    rcases ofDocument_failsWithin document failure failed with rfl | rfl | ⟨problem, rfl⟩ <;>
      simp [Session.isSurvivable, Failure.isConfiguration, Failure.isFile]

example :
    Outcome.failure? (ofDocument (.mapping [(.text "rss", .int (Nat.pow 10 4300))])) =
      some .numeralTooLong := by
  decide +kernel

namespace InfinitePoll

/-- Settings with a feed that is to be looked at after infinitely many seconds. -/
def document : Value :=
  .mapping [(.text "rss", .text "http://feed/rss"),
    (.text "poll", .scalar (.real (.infinite false)))]

/-- The document is neither read nor told to be unusable. -/
theorem ofDocument_infinite :
    ofDocument document = .error .infiniteInteger ∧
      ¬((∃ settings, ofDocument document = .ok settings) ∨
        ∃ problem, ofDocument document = .error (.configuration problem)) := by
  have failed : ofDocument document = .error .infiniteInteger := rfl
  refine ⟨failed, ?_⟩
  simp [failed]

end InfinitePoll

end Settings

end ReleaseWatch
