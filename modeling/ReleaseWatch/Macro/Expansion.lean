import ReleaseWatch.Macro.Template

/-!
# Expansion of definitions

A key of a rule that names a definition is a call: the keys of the definition take its place, with
the holes of their values filled. A definition may call others, but not itself. A definition that
is a text stands for a whole rule with that title pattern.

While a definition is being expanded it is open. Only the definitions that are not open are
available to the calls inside it, so a cycle shows as a call to a definition that is not
available, and the number of available definitions bounds the depth of the calls.
-/

namespace ReleaseWatch

/-- The rule that consists of a title pattern. -/
def titleRule (pattern : String) : Mapping :=
  [(.text "title", .text pattern)]

/--
The failure of a call to an open definition; the names lead from the outermost call to this one.
-/
def cycleFailure (chain : List Scalar) : Failure :=
  match chain.mapM fun name => match name with
    | .text content => some content
    | _ => none with
  | some names => .configuration (.definitionCycle names)
  | none => .cycleOfUnnamed

/-- Expands the calls of a mapping, entry by entry, on top of what the entries before have given. -/
def expandFields (definitions : Mapping) (chain : List Scalar) (available : Mapping)
    (expanded : Mapping) : Mapping → Except Failure Mapping
  | [] => .ok expanded
  | (key, value) :: rest =>
      if definitions.hasKey key then
        match _found : available.find? key with
        | none => .error (cycleFailure (chain ++ [key]))
        | some (.scalar (.text pattern)) =>
            (fillText key (argumentList value) pattern).map titleRule
        | some (.mapping fields) =>
            match Mapping.fill key (argumentList value) fields with
            | .error failure => .error failure
            | .ok body =>
                match expandFields definitions (chain ++ [key]) (available.erase key) [] body with
                | .error failure => .error failure
                | .ok inner =>
                    expandFields definitions chain available (expanded.merge inner) rest
        | some other => .error (.showing key (.definitionNotMapping key other.kindName))
      else expandFields definitions chain available (expanded.insert key value) rest
termination_by fields => (available.length, fields.length)
decreasing_by
  · exact Prod.Lex.left _ _ (Mapping.length_erase_lt _found)
  · exact Prod.Lex.right _ (by simp)
  · exact Prod.Lex.right _ (by simp)

/--
The mapping that a rule stands for: a text is a title
pattern, and the calls of a mapping are expanded.
-/
def expandRule (definitions : Mapping) : Value → Except Failure Mapping
  | .scalar (.text pattern) => .ok (titleRule pattern)
  | .mapping fields => expandFields definitions [] definitions [] fields
  | other => .error (.configuration (.ruleNotMapping other.kindName))

end ReleaseWatch
