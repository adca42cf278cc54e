/-!
# Sets of code points

A property of characters is kept as the closed intervals of code points that have it. The
intervals are disjoint and in increasing order, so a search may stop at the first interval
that lies above the code point it looks for.
-/

namespace ReleaseWatch

/-- Closed intervals of code points, disjoint and in increasing order. -/
abbrev CodeRanges := List (Nat × Nat)

namespace CodeRanges

/-- Whether some interval holds the code point. -/
def contains : CodeRanges → Nat → Bool
  | [], _ => false
  | (first, last) :: rest, code =>
      if code < first then false
      else if code ≤ last then true
      else contains rest code

@[simp]
theorem contains_nil (code : Nat) : contains [] code = false := rfl

theorem contains_cons (first last code : Nat) (rest : CodeRanges) :
    contains ((first, last) :: rest) code =
      if code < first then false else if code ≤ last then true else contains rest code := rfl

end CodeRanges

end ReleaseWatch
