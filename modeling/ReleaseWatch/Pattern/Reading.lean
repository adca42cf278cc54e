import ReleaseWatch.Pattern.Basic
import ReleaseWatch.Pattern.Token
import ReleaseWatch.Text.CharacterName.Lookup
import ReleaseWatch.Text.Name

/-!
# Reading patterns

A pattern is read from left to right, one token ahead. Modes can be set for the whole pattern at
its start, and for a group at the start of the group. What only shows when the whole pattern is
read, such as a look behind whose width is not fixed, is noted and reported last.
-/

namespace ReleaseWatch

inductive PatternProblem where
  | malformed
  | repetitionTooLarge
  | numeralTooLong
  | conflictingAlphabets
  deriving DecidableEq, Repr

/-- What has been read of a pattern, and the tokens that are left. -/
structure PatternState where
  rest : List PatternToken
  /-- The modes of the whole pattern. -/
  modes : Modes := {}
  /--
  The width of each group by number; none while the
  group is open. The whole pattern is group zero.
  -/
  widths : Array (Option Width) := #[none]
  names : List (String × Nat) := []
  /-- The number of groups when the outermost look behind began, inside of one. -/
  lookbehindGroups : Option Nat := none
  /-- The groups that conditions ask for by number. -/
  conditions : List Nat := []
  /-- Whether something was read that makes the pattern as a whole unusable. -/
  isUnusable : Bool := false

abbrev PatternReader := StateT PatternState (Except PatternProblem)

namespace PatternReader

def fail {α : Type} : PatternReader α :=
  throw .malformed

def peek : PatternReader (Option PatternToken) := do
  return (← get).rest.head?

/-- Refuses a backslash that stands alone as the next token. -/
def checkNext : PatternReader Unit := do
  if (← peek) = some .loneBackslash then fail

def advance : PatternReader (Option PatternToken) := do
  let token ← peek
  modify fun state => { state with rest := state.rest.drop 1 }
  checkNext
  return token

/-- Takes the next token if it is the given character. -/
def accept (char : Char) : PatternReader Bool := do
  if (← peek) = some (.plain char) then
    let _ ← advance
    return true
  else return false

def expect (char : Char) : PatternReader Unit := do
  unless ← accept char do fail

/-- Takes at most `count` characters that pass a test. -/
def takeWhile (test : Char → Bool) : Nat → PatternReader (List Char)
  | 0 => return []
  | count + 1 => do
      match ← peek with
      | some (.plain char) =>
          if test char then
            let _ ← advance
            return char :: (← takeWhile test count)
          else return []
      | _ => return []

/-- Takes the text up to a character, which is taken as well; the text must not be empty. -/
def takeUntil (stop : Char) : PatternReader (List Char) := do
  let text := (← get).rest.takeWhile (· != .plain stop)
  for _ in text do
    let _ ← advance
  match ← advance with
  | none => fail
  | some _ => if text.isEmpty then fail else return text.flatMap PatternToken.text

/-- Skips tokens up to a character, which is skipped as well; tells whether it was there. -/
def skipUntil (stop : Char) : PatternReader Bool := do
  let skipped := (← get).rest.takeWhile (· != .plain stop)
  for _ in skipped do
    let _ ← advance
  return (← advance).isSome

/-! ## Escapes -/

def isOctal (char : Char) : Bool := '0' ≤ char && char ≤ '7'

def isHex (char : Char) : Bool :=
  char.isDigit || ('a' ≤ char && char ≤ 'f') || ('A' ≤ char && char ≤ 'F')

/-- The value of a digit of any base up to sixteen. -/
def digitOf (char : Char) : Nat :=
  if char.isDigit then char.toNat - '0'.toNat
  else if 'a' ≤ char then char.toNat - 'a'.toNat + 10
  else char.toNat - 'A'.toNat + 10

def numberOf (base : Nat) (digits : List Char) : Nat :=
  digits.foldl (fun value digit => base * value + digitOf digit) 0

/-- The code of an escape with exactly `count` hexadecimal digits. -/
def hexCode (count : Nat) : PatternReader Nat := do
  let digits ← takeWhile isHex count
  let code := numberOf 16 digits
  if digits.length = count ∧ code ≤ 0x10FFFF then return code else fail

def octalLimit : Nat := 0o377

def octalCode (digits : List Char) : PatternReader Nat :=
  let code := numberOf 8 digits
  if code ≤ octalLimit then return code else fail

/-- The code of the control character that a letter stands for. -/
def controlCode? : Char → Option Nat
  | 'a' => some 0x07
  | 'f' => some 0x0C
  | 'n' => some 0x0A
  | 'r' => some 0x0D
  | 't' => some 0x09
  | 'v' => some 0x0B
  | '\\' => some 0x5C
  | _ => none

/-- The category that a letter stands for, and whether it is negated. -/
def category? : Char → Option ClassItem
  | 'd' => some (.category false .digit)
  | 'D' => some (.category true .digit)
  | 's' => some (.category false .space)
  | 'S' => some (.category true .space)
  | 'w' => some (.category false .word)
  | 'W' => some (.category true .word)
  | _ => none

/-- The code of a character that is written by its name in braces. -/
def namedCode : PatternReader Nat := do
  expect '\x7b'
  let name ← takeUntil '\x7d'
  match CharacterName.code? (String.ofList name) with
  | some code => return code
  | none => fail

/-- The code of an escape that is written alike everywhere; none for any other letter. -/
def commonCode? (letter : Char) : PatternReader (Option Nat) :=
  match letter with
  | 'N' => return some (← namedCode)
  | 'x' => return some (← hexCode 2)
  | 'u' => return some (← hexCode 4)
  | 'U' => return some (← hexCode 8)
  | _ => return controlCode? letter

/-- The code of a character that needs no escape; letters and digits are refused. -/
def plainCode (letter : Char) : PatternReader Nat :=
  if letter.isAlpha || letter.isDigit then fail else return letter.toNat

def readClassEscape (letter : Char) : PatternReader ClassItem := do
  if letter = 'b' then return .code 0x08
  match category? letter with
  | some category => return category
  | none =>
      match ← commonCode? letter with
      | some code => return .code code
      | none =>
          if isOctal letter then
            return .code (← octalCode (letter :: (← takeWhile isOctal 2)))
          else return .code (← plainCode letter)

/-- Refuses a group that cannot be used inside the look behind that is being read. -/
def checkLookbehindGroup (number : Nat) : PatternReader Unit := do
  let state ← get
  match state.lookbehindGroups with
  | none => return ()
  | some known =>
      match state.widths[number]? with
      | some (some _) => if known ≤ number then fail
      | _ => fail

/-- The reference to a group, which has to be closed. -/
def referenceTo (modes : Modes) (number : Nat) : PatternReader Node := do
  match (← get).widths[number]? with
  | some (some width) =>
      checkLookbehindGroup number
      return .reference modes number width
  | _ => fail

/--
Reads an escape that starts with a digit other than
zero: a group, or a code of three octal digits.
-/
def readNumberEscape (modes : Modes) (first : Char) : PatternReader Node := do
  match ← takeWhile Char.isDigit 1 with
  | [second] =>
      if isOctal first && isOctal second then
        match ← takeWhile isOctal 1 with
        | [third] => return .one modes (.code false (← octalCode [first, second, third]))
        | _ => referenceTo modes (numberOf 10 [first, second])
      else referenceTo modes (numberOf 10 [first, second])
  | _ => referenceTo modes (numberOf 10 [first])

/-- Reads an escape outside of character classes; tells whether it is a place. -/
def readEscape (modes : Modes) (letter : Char) : PatternReader (Node × Bool) := do
  match letter with
  | 'A' => return (.anchor .textStart, true)
  | 'Z' => return (.anchor .textEnd, true)
  | 'b' => return (.anchor (.wordEdge false modes.ascii), true)
  | 'B' => return (.anchor (.wordEdge true modes.ascii), true)
  | _ =>
      match category? letter with
      | some category => return (.one modes (.items false [category]), false)
      | none =>
          match ← commonCode? letter with
          | some code => return (.one modes (.code false code), false)
          | none =>
              if letter = '0' then
                let digits ← takeWhile isOctal 2
                return (.one modes (.code false (numberOf 8 digits)), false)
              else if letter.isDigit then return (← readNumberEscape modes letter, false)
              else return (.one modes (.code false (← plainCode letter)), false)

/-! ## Character classes -/

/-- The code of a member that can end a range. -/
def rangeEnd : ClassItem → PatternReader Nat
  | .code code => return code
  | _ => fail

/--
Reads the members of a class up to its closing bracket; the bracket is a member if it comes first.
-/
def readClassItems : Nat → List ClassItem → PatternReader (List ClassItem)
  | 0, _ => fail
  | bound + 1, items => do
      let first ← match ← advance with
        | some (.plain char) =>
            if char = ']' && !items.isEmpty then return items.reverse
            pure (ClassItem.code char.toNat)
        | some (.escaped letter) => readClassEscape letter
        | _ => fail
      if ← accept '-' then
        match ← advance with
        | some (.plain ']') => return (.code 0x2D :: first :: items).reverse
        | some (.plain char) => readRange bound items first (.code char.toNat)
        | some (.escaped letter) => readRange bound items first (← readClassEscape letter)
        | _ => fail
      else readClassItems bound (first :: items)
where
  readRange (bound : Nat) (items : List ClassItem) (first last : ClassItem) :
      PatternReader (List ClassItem) := do
    let low ← rangeEnd first
    let high ← rangeEnd last
    if high < low then fail else readClassItems bound (.range low high :: items)

/-- Reads a character class behind its opening bracket. -/
def readClass (modes : Modes) : PatternReader Node := do
  let negated ← accept '^'
  let items ← readClassItems ((← get).rest.length + 1) []
  match items.eraseDups with
  | [.code code] => return .one modes (.code negated code)
  | distinct => return .one modes (.items negated distinct)

/-! ## Repetition -/

/-- What may come before a repetition. -/
inductive ItemKind where
  | plain
  /-- A place cannot be repeated. -/
  | place
  /-- What is repeated already cannot be repeated again. -/
  | repeated
  deriving DecidableEq

structure SequenceItem where
  node : Node
  kind : ItemKind := .plain

/-- The number of rounds from which on a repetition cannot be counted. -/
def roundLimit : Nat := 4294967295

def roundCount (digits : List Char) : PatternReader Nat :=
  match natural? digits with
  | none => throw .numeralTooLong
  | some count => if roundLimit ≤ count then throw .repetitionTooLarge else return count

/--
Reads the bounds of a repetition behind an opening brace; none if the brace stands for itself.
-/
def readBounds : PatternReader (Option (Nat × Option Nat)) := do
  let start := (← get).rest
  if (← peek) = some (.plain '\x7d') then return none
  let least ← takeWhile Char.isDigit start.length
  let most ← if ← accept ',' then takeWhile Char.isDigit start.length else pure least
  if ← accept '\x7d' then
    let leastCount ← if least.isEmpty then pure 0 else roundCount least
    if most.isEmpty then return some (leastCount, none)
    let mostCount ← roundCount most
    if mostCount < leastCount then fail else return some (leastCount, some mostCount)
  else
    modify fun state => { state with rest := start }
    return none

/-- Reads the mark behind a repetition that tells how many rounds are preferred. -/
def readGreed : PatternReader Greed := do
  if ← accept '?' then return .lazy
  if ← accept '+' then return .possessive
  return .greedy

/-- Repeats the last item of a sequence, which is given in reverse. -/
def repeatLast (least : Nat) (most : Option Nat) (items : List SequenceItem) :
    PatternReader (List SequenceItem) := do
  match items with
  | [] => fail
  | last :: rest =>
      if last.kind != .plain then fail
      let greed ← readGreed
      modify fun state => { state with isUnusable := state.isUnusable || state.modes.template }
      return { node := .repetition greed least most last.node, kind := .repeated } :: rest

/-! ## Modes -/

def isModeLetter (char : Char) : Bool :=
  ['i', 'L', 'm', 's', 'x', 'a', 't', 'u'].contains char

/-- Turns on the mode of a letter; the two alphabets exclude each other. -/
def turnOn (modes : Modes) : Char → PatternReader Modes
  | 'i' => return { modes with ignoreCase := true }
  | 'm' => return { modes with multiline := true }
  | 's' => return { modes with dotAll := true }
  | 'x' => return { modes with verbose := true }
  | 't' => return { modes with template := true }
  | 'a' => if modes.unicode then fail else return { modes with ascii := true }
  | 'u' => if modes.ascii then fail else return { modes with unicode := true }
  | _ => fail

/-- Notes that the mode of a letter is turned off; the alphabets cannot be. -/
def turnOff (modes : Modes) : Char → PatternReader Modes
  | 'i' => return { modes with ignoreCase := true }
  | 'm' => return { modes with multiline := true }
  | 's' => return { modes with dotAll := true }
  | 'x' => return { modes with verbose := true }
  | _ => fail

/-- Reads letters of modes behind a first one up to one of the given marks. -/
def readModes (change : Modes → Char → PatternReader Modes) (marks : List Char) :
    Nat → Modes → Char → PatternReader (Modes × Char)
  | 0, _, _ => fail
  | bound + 1, modes, letter => do
      let modes ← change modes letter
      match ← advance with
      | some (.plain char) =>
          if marks.contains char then return (modes, char)
          else if isModeLetter char then readModes change marks bound modes char
          else fail
      | _ => fail

/-- The modes of the whole pattern together with further ones. -/
def joinModes (modes added : Modes) : Modes where
  ignoreCase := modes.ignoreCase || added.ignoreCase
  multiline := modes.multiline || added.multiline
  dotAll := modes.dotAll || added.dotAll
  verbose := modes.verbose || added.verbose
  ascii := modes.ascii || added.ascii
  unicode := modes.unicode || added.unicode
  template := modes.template || added.template

/--
The modes of a group that turns some on and some
off; naming an alphabet replaces the one in force.
-/
def groupModes (modes added removed : Modes) : Modes where
  ignoreCase := (modes.ignoreCase || added.ignoreCase) && !removed.ignoreCase
  multiline := (modes.multiline || added.multiline) && !removed.multiline
  dotAll := (modes.dotAll || added.dotAll) && !removed.dotAll
  verbose := (modes.verbose || added.verbose) && !removed.verbose
  ascii := if added.ascii || added.unicode then added.ascii else modes.ascii
  unicode := if added.ascii || added.unicode then added.unicode else modes.unicode
  template := modes.template

def overlap (added removed : Modes) : Bool :=
  (added.ignoreCase && removed.ignoreCase) || (added.multiline && removed.multiline) ||
    (added.dotAll && removed.dotAll) || (added.verbose && removed.verbose)

/--
Reads modes behind their first character: for the whole pattern, or for a group in given modes.
-/
def readModeGroup (modes : Modes) (first : Char) : PatternReader (Option Modes) := do
  let bound := (← get).rest.length + 1
  let (added, mark) ← if first = '-' then pure ({}, '-')
    else readModes turnOn [')', '-', ':'] bound {} first
  if mark = ')' then
    modify fun state => { state with modes := joinModes state.modes added }
    return none
  if added.template then fail
  let removed ← if mark = '-' then
      match ← advance with
      | some (.plain char) =>
          if isModeLetter char then pure (← readModes turnOff [':'] bound {} char).1 else fail
      | _ => fail
    else pure {}
  if overlap added removed then fail
  return some (groupModes modes added removed)

/-! ## Groups -/

/-- Opens a group and gives it the next number. -/
def openGroup (name : Option (List Char)) : PatternReader Nat := do
  let state ← get
  let number := state.widths.size
  match name with
  | none => set { state with widths := state.widths.push none }
  | some name =>
      let name := String.ofList name
      if (state.names.lookup name).isSome then fail
      set { state with
        widths := state.widths.push none
        names := state.names ++ [(name, number)] }
  return number

def closeGroup (number : Nat) (body : Node) : PatternReader Node := do
  modify fun state =>
    { state with widths := state.widths.setIfInBounds number (some body.width) }
  return .group number body

def takeName (stop : Char) : PatternReader (List Char) := do
  let name ← takeUntil stop
  if isName name then return name else fail

def groupNamed (name : List Char) : PatternReader Nat := do
  match (← get).names.lookup (String.ofList name) with
  | some number => return number
  | none => fail

/-- Reads the group that a condition asks for, by name or by number. -/
def readCondition : PatternReader Nat := do
  let text ← takeUntil ')'
  let number ← if isName text then groupNamed text
    else
      match Numeral.whole? text with
      | some (.ofNat (number + 1)) =>
          modify fun state => { state with conditions := (number + 1) :: state.conditions }
          pure (number + 1)
      | _ => fail
  checkLookbehindGroup number
  return number

/-- A look behind, which needs a fixed width. -/
def lookbehindOf (negated : Bool) (body : Node) : PatternReader Node := do
  let width := body.width
  unless width.most = some width.least do
    modify fun state => { state with isUnusable := true }
  return .lookbehind negated width.least body

/-- Whether a character is skipped between the parts of a verbose pattern. -/
def isLayout (char : Char) : Bool :=
  char == ' ' || (0x09 ≤ char.toNat && char.toNat ≤ 0x0D)

mutual

/-- Reads alternatives; those of the whole pattern see the modes that it sets. -/
def readChoices : Nat → Modes → Bool → Bool → PatternReader Node
  | 0, _, _, _ => fail
  | bound + 1, modes, isWhole, isFirst => do
      let node ← readSequence bound modes (isWhole && isFirst) []
      if ← accept '|' then
        let state ← get
        let modes := if isWhole then state.modes else modes
        return .choice node (← readChoices bound modes isWhole false)
      else return node

/--
Reads a sequence whose items so far are given in reverse;
only the first of the whole pattern may set modes.
-/
def readSequence : Nat → Modes → Bool → List SequenceItem → PatternReader Node
  | 0, _, _, _ => fail
  | bound + 1, modes, maySetModes, items => do
      let finished := Node.ofSequence (items.reverse.map (·.node))
      match ← peek with
      | none => return finished
      | some .loneBackslash => fail
      | some (.escaped letter) =>
          let _ ← advance
          let (node, isPlace) ← readEscape modes letter
          let kind := if isPlace then ItemKind.place else .plain
          readSequence bound modes maySetModes ({ node, kind } :: items)
      | some (.plain char) =>
          if char = '|' || char = ')' then return finished
          let _ ← advance
          if modes.verbose && isLayout char then
            readSequence bound modes maySetModes items
          else if modes.verbose && char = '#' then
            let _ ← skipUntil '\n'
            readSequence bound modes maySetModes items
          else
            match char with
            | '[' =>
                let node ← readClass modes
                readSequence bound modes maySetModes ({ node } :: items)
            | '.' => readSequence bound modes maySetModes ({ node := .one modes .any } :: items)
            | '^' =>
                let place := if modes.multiline then Anchor.lineStart else .textStart
                readSequence bound modes maySetModes
                  ({ node := .anchor place, kind := .place } :: items)
            | '$' =>
                let place := if modes.multiline then Anchor.lineEnd else .lastLineEnd
                readSequence bound modes maySetModes
                  ({ node := .anchor place, kind := .place } :: items)
            | '*' => readSequence bound modes maySetModes (← repeatLast 0 none items)
            | '+' => readSequence bound modes maySetModes (← repeatLast 1 none items)
            | '?' => readSequence bound modes maySetModes (← repeatLast 0 (some 1) items)
            | '\x7b' =>
                match ← readBounds with
                | some (least, most) =>
                    readSequence bound modes maySetModes (← repeatLast least most items)
                | none =>
                    readSequence bound modes maySetModes
                      ({ node := .one modes (.code false char.toNat) } :: items)
            | '(' =>
                match ← readGroup bound modes (maySetModes && items.isEmpty) with
                | some node => readSequence bound modes maySetModes ({ node } :: items)
                | none =>
                    let state ← get
                    let modes := if maySetModes && items.isEmpty then state.modes else modes
                    readSequence bound modes maySetModes items
            | _ =>
                readSequence bound modes maySetModes
                  ({ node := .one modes (.code false char.toNat) } :: items)

/--
Reads a group behind its opening parenthesis; none
for a comment or for modes of the whole pattern.
-/
def readGroup : Nat → Modes → Bool → PatternReader (Option Node)
  | 0, _, _ => fail
  | bound + 1, modes, maySetModes => do
      if ← accept '?' then
        match ← advance with
        | some (.plain 'P') =>
            if ← accept '<' then
              return some (← readCapture bound modes (some (← takeName '>')))
            else if ← accept '=' then
              return some (← referenceTo modes (← groupNamed (← takeName ')')))
            else fail
        | some (.plain ':') => return some (← readBody bound modes)
        | some (.plain '>') => return some (.atomic (← readBody bound modes))
        | some (.plain '#') => if ← skipUntil ')' then return none else fail
        | some (.plain '=') => return some (.lookahead false (← readBody bound modes))
        | some (.plain '!') => return some (.lookahead true (← readBody bound modes))
        | some (.plain '<') =>
            match ← advance with
            | some (.plain '=') => return some (← readLookbehind bound modes false)
            | some (.plain '!') => return some (← readLookbehind bound modes true)
            | _ => fail
        | some (.plain '(') =>
            let number ← readCondition
            let taken ← readSequence bound modes false []
            let missing ←
              if ← accept '|' then readSequence bound modes false [] else pure .empty
            expect ')'
            return some (.conditional number taken missing)
        | some (.plain char) =>
            if isModeLetter char || char = '-' then
              match ← readModeGroup modes char with
              | none => if maySetModes then return none else fail
              | some inner => return some (← readBody bound inner)
            else fail
        | _ => fail
      else return some (← readCapture bound modes none)

/-- Reads what a group holds, and its closing parenthesis. -/
def readBody : Nat → Modes → PatternReader Node
  | 0, _ => fail
  | bound + 1, modes => do
      let body ← readChoices bound modes false false
      expect ')'
      return body

def readCapture : Nat → Modes → Option (List Char) → PatternReader Node
  | 0, _, _ => fail
  | bound + 1, modes, name => do
      let number ← openGroup name
      closeGroup number (← readBody bound modes)

def readLookbehind : Nat → Modes → Bool → PatternReader Node
  | 0, _, _ => fail
  | bound + 1, modes, negated => do
      let outer := (← get).lookbehindGroups
      modify fun state =>
        { state with lookbehindGroups := some (outer.getD state.widths.size) }
      let body ← readChoices bound modes false false
      modify fun state => { state with lookbehindGroups := outer }
      expect ')'
      lookbehindOf negated body

end

/-- Reads a whole pattern; `bound` limits the steps. -/
def readPattern (bound : Nat) : PatternReader Pattern := do
  checkNext
  let root ← readChoices bound {} true true
  let state ← get
  if state.modes.ascii && state.modes.unicode then throw .conflictingAlphabets
  if !state.rest.isEmpty || state.conditions.any (state.widths.size ≤ ·) || state.isUnusable then
    fail
  return { root, groups := state.widths.size - 1, names := state.names }

end PatternReader

namespace Pattern

def ofText (text : String) : Except PatternProblem Pattern :=
  let tokens := PatternToken.ofText text.toList
  (PatternReader.readPattern (6 * tokens.length + 6)).run' { rest := tokens }

end Pattern

end ReleaseWatch
