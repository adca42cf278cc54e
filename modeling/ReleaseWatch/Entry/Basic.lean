import ReleaseWatch.Info

/-!
# Entries

An item is what a feed says about one release; an entry is what was extracted from it. Rules name
the fields of an entry by selectors, some of which have two spellings.
-/

namespace ReleaseWatch

/-- One item of a feed, with the texts as they came. -/
structure Item where
  title : Option String := none
  description : Option String := none
  link : Option String := none
  publishedAt : Option String := none
  guid : Option String := none
  category : Option String := none
  deriving DecidableEq

/-- One release of the feed, with what was extracted from its item. -/
structure Entry where
  id : Option Int := none
  title : Option String := some ""
  link : String := ""
  torrentUrl : String := ""
  size : Option String := none
  category : String := ""
  authorized : Bool := false
  magnetUri : Option String := none
  comment : Option String := none
  publishedAt : Option String := none
  guid : String := ""
  info : Option Info := none
  deriving DecidableEq

/-- The fields of an entry that rules can select. -/
inductive EntryField where
  | id
  | title
  | link
  | torrentUrl
  | size
  | category
  | authorized
  | magnetUri
  | comment
  | publishedAt
  | guid
  deriving DecidableEq, Repr

namespace EntryField

def ofSelector? : String → Option EntryField
  | "id" => some .id
  | "title" => some .title
  | "link" => some .link
  | "torrent" => some .torrentUrl
  | "torrent_url" => some .torrentUrl
  | "size" => some .size
  | "category" => some .category
  | "authorized" => some .authorized
  | "magnet" => some .magnetUri
  | "magnet_uri" => some .magnetUri
  | "comment" => some .comment
  | "date" => some .publishedAt
  | "published_at" => some .publishedAt
  | "guid" => some .guid
  | _ => none

end EntryField

namespace Entry

/-- A text that may be missing, as a scalar. -/
def optionalText : Option String → Scalar
  | none => .null
  | some content => .text content

def field (entry : Entry) : EntryField → Scalar
  | .id => match entry.id with
    | none => .null
    | some number => .int number
  | .title => optionalText entry.title
  | .link => .text entry.link
  | .torrentUrl => .text entry.torrentUrl
  | .size => optionalText entry.size
  | .category => .text entry.category
  | .authorized => .bool entry.authorized
  | .magnetUri => optionalText entry.magnetUri
  | .comment => optionalText entry.comment
  | .publishedAt => optionalText entry.publishedAt
  | .guid => .text entry.guid

/-- The number of an entry, or the word for its absence. -/
def idText : Option Int → String
  | none => "None"
  | some number => toString number

/-- How log lines and messages point at an entry. -/
def description (entry : Entry) : String :=
  "entry " ++ idText entry.id ++ " " ++ quotedTitle entry.title

/-- The number that orders an entry among others; an entry without one fails. -/
def orderKey (entry : Entry) : Except Failure Int :=
  match entry.id with
  | some number => .ok number
  | none => .error (.extraction (.orderMissing entry.title entry.guid))

end Entry

end ReleaseWatch
