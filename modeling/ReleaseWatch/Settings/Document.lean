import ReleaseWatch.Value.Basic

/-!
# Annotations in documents

A settings document may hold explanations and sample rules for its reader. They mean nothing:
the key `explanation` is dropped from every mapping, and so is every element of a list that
is marked as a sample.
-/

namespace ReleaseWatch

namespace Value

/-- Whether a value is a mapping that is marked as a sample. -/
def isSample : Value → Bool
  | .mapping fields => (Mapping.get fields "sample_entry").isTruthy
  | _ => false

mutual

/-- A document without its annotations. -/
def withoutAnnotations : Value → Value
  | .list items => .list (itemsWithoutAnnotations items)
  | .mapping fields => .mapping (fieldsWithoutAnnotations fields)
  | .scalar content => .scalar content

/-- The elements of a list that are no samples, each without its annotations. -/
def itemsWithoutAnnotations : List Value → List Value
  | [] => []
  | item :: rest =>
      if item.isSample then itemsWithoutAnnotations rest
      else item.withoutAnnotations :: itemsWithoutAnnotations rest

/-- The entries of a mapping that are no explanations, each without its annotations. -/
def fieldsWithoutAnnotations : List (Scalar × Value) → List (Scalar × Value)
  | [] => []
  | (key, value) :: rest =>
      if key = .text "explanation" then fieldsWithoutAnnotations rest
      else (key, value.withoutAnnotations) :: fieldsWithoutAnnotations rest

end

end Value

end ReleaseWatch
