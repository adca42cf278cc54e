import ReleaseWatch.Text.Blank
import ReleaseWatch.Text.Word

/-!
# Element wrappers

Some feeds hand over a field together with the element that held it. `unwrap` takes the text
between `<name attributes>` and `</name>` when these two enclose everything but white space. The
name is the longest start of the run of name characters behind the bracket that closes the
element; what is left of the run belongs to the attributes.
-/

namespace ReleaseWatch

/-- Whether a character may stand in the name of an element. -/
def isElementChar (char : Char) : Bool :=
  isWordChar char || char == ':' || char == '-'

/--
Splits `<name attributes>` from a text: the run of name characters, and what follows the element.
-/
def openingElement? : List Char → Option (List Char × List Char)
  | '<' :: rest =>
      match (rest.dropWhile isElementChar).dropWhile (· != '>') with
      | '>' :: body => some (rest.takeWhile isElementChar, body)
      | _ => none
  | _ => none

/-- Whether a text is the closing element of a name, with white space at most. -/
def isClosingElement (name text : List Char) : Bool :=
  match (('<' :: '/' :: name).isPrefixOf? text).map (·.dropWhile isBlank) with
  | some ('>' :: rest) => rest.all isBlank
  | _ => false

/-- The shortest start of a text that leaves the closing element of a name. -/
def bodyBefore? (name : List Char) : List Char → Option (List Char)
  | [] => none
  | char :: rest =>
      if isClosingElement name (char :: rest) then some []
      else (bodyBefore? name rest).map (char :: ·)

/-- The nonempty starts of a run, the longest first. -/
def namesWithin : List Char → List (List Char)
  | run => (List.range run.length).reverse.map fun count => run.take (count + 1)

/-- The text between the elements that enclose a text, if they do. -/
def enclosed? (text : List Char) : Option (List Char) :=
  match openingElement? (text.dropWhile isBlank) with
  | none => none
  | some (run, body) => (namesWithin run).findSome? fun name => bodyBefore? name body

/--
The text inside a wrapper, or the whole text without one, in each case without outer white space.
-/
def unwrap (text : String) : String :=
  match enclosed? text.toList with
  | some body => String.ofList (trim body)
  | none => String.ofList (trim text.toList)

end ReleaseWatch
