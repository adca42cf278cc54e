/-!
# Tokens of patterns

A backslash in a pattern makes one token with the character behind it. A backslash that ends the
pattern stands alone and cannot be read.
-/

namespace ReleaseWatch

/-- A piece of the text of a pattern. -/
inductive PatternToken where
  | plain (char : Char)
  | escaped (char : Char)
  | loneBackslash
  deriving DecidableEq, Repr

namespace PatternToken

/-- The tokens of a pattern. -/
def ofText : List Char → List PatternToken
  | [] => []
  | ['\\'] => [.loneBackslash]
  | '\\' :: char :: rest => .escaped char :: ofText rest
  | char :: rest => .plain char :: ofText rest

/-- The text of a token. -/
def text : PatternToken → List Char
  | .plain char => [char]
  | .escaped char => ['\\', char]
  | .loneBackslash => ['\\']

end PatternToken

end ReleaseWatch
