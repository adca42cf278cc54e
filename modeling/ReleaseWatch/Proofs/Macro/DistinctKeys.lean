import ReleaseWatch.Macro.Expansion
import ReleaseWatch.Proofs.Outcome
import ReleaseWatch.Proofs.Value.Mapping

/-!
# Keys of expanded rules

A mapping that is built by setting keys has every key once. This holds of the mapping that a rule
stands for, whatever its fragment looks like: the keys of the fragment and those that calls insert
are all set, one after the other, in a mapping that was empty to begin with.
-/

namespace ReleaseWatch

theorem distinctKeys_titleRule (pattern : String) : (titleRule pattern).DistinctKeys :=
  List.pairwise_singleton _ _

theorem distinctKeys_expandFields {definitions available expanded fields result : Mapping}
    {chain : List Scalar} (distinct : expanded.DistinctKeys)
    (done : expandFields definitions chain available expanded fields = .ok result) :
    result.DistinctKeys := by
  fun_induction expandFields definitions chain available expanded fields generalizing result with
  | case1 chain available expanded =>
      cases done
      exact distinct
  | case2 => cases done
  | case3 =>
      rcases Outcome.map_eq_ok_iff.mp done with ⟨pattern, _, rfl⟩
      exact distinctKeys_titleRule pattern
  | case4 => cases done
  | case5 => cases done
  | case6 chain available expanded key value rest isCall fields found body filled inner ran _ ih =>
      exact ih (distinct.merge inner) done
  | case7 => cases done
  | case8 chain available expanded key value rest isOwn ih =>
      exact ih (distinct.insert key value) done

theorem distinctKeys_expandRule {definitions fields : Mapping} {fragment : Value}
    (expanded : expandRule definitions fragment = .ok fields) : fields.DistinctKeys := by
  unfold expandRule at expanded
  split at expanded
  · cases expanded
    exact distinctKeys_titleRule _
  · exact distinctKeys_expandFields .nil expanded
  · cases expanded

end ReleaseWatch
