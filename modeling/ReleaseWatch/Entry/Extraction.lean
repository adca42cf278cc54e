import ReleaseWatch.Entry.Basic
import ReleaseWatch.Entry.Description
import ReleaseWatch.Entry.Wrapper

/-!
# Extraction

Turns a feed item into an entry. The number of the entry is the first run of digits behind
`id=` in the guid. Addresses of info pages are turned into those of the downloads, and
underscores in titles are spaces.
-/

namespace ReleaseWatch

/-- Turns the address of an info page into that of the download. -/
def downloadUrl (url : String) : String :=
  String.ofList
    (replaceAll "page=torrentinfo".toList "page=download".toList url.toList)

/-- Reads the digits behind the label of a number. -/
def readIdDigits? (text : List Char) : Option (List Char) :=
  match ("id=".toList.isPrefixOf? text).map (·.takeWhile isDigit) with
  | some (digit :: digits) => some (digit :: digits)
  | _ => none

/-- The number in a guid, if there is one; a numeral that is too long fails. -/
def guidNumber (guid : String) : Except Failure (Option Int) :=
  match firstMatch? readIdDigits? guid.toList with
  | none => .ok none
  | some digits =>
      match natural? digits with
      | none => .error .numeralTooLong
      | some number => .ok (some number)

namespace Item

/-- The guid without the element around it. -/
def plainGuid (item : Item) : String :=
  unwrap (item.guid.getD "")

/-- The first of two texts unless it is missing or empty. -/
def orElseText (first : Option String) (second : String) : String :=
  match first with
  | none => second
  | some text => if text = "" then second else text

/-- The entry that an item with a given number makes. -/
def toEntry (item : Item) (number : Option Int) : Entry :=
  let description := item.description.getD ""
  let link := item.link.getD ""
  { id := number
    title := some (String.ofList ((item.title.getD "").toList.map fun char =>
      if char = '_' then ' ' else char))
    link := downloadUrl link
    torrentUrl := downloadUrl (orElseText (Description.torrent? description) link)
    size := Description.size? description
    category := unwrap (item.category.getD "")
    authorized := Description.authorized description
    magnetUri := Description.magnet? description
    comment := Description.comment? description
    publishedAt := item.publishedAt
    guid := item.plainGuid }

/-- The entry of an item; one whose guid holds no number has none. -/
def extract (item : Item) : Except Failure Entry :=
  (guidNumber item.plainGuid).map item.toEntry

end Item

/-- An entry together with its number. -/
structure NumberedEntry where
  entry : Entry
  number : Int
  id_eq : entry.id = some number

namespace Item

/-- The entry of an item whose guid has to hold a number. -/
def extractNumbered (item : Item) : Except Failure NumberedEntry :=
  match guidNumber item.plainGuid with
  | .error failure => .error failure
  | .ok none => .error (.extraction (.idMissing item.plainGuid))
  | .ok (some number) => .ok { entry := item.toEntry (some number), number, id_eq := rfl }

end Item

end ReleaseWatch
