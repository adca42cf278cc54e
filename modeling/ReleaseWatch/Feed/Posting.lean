import ReleaseWatch.Entry.Basic
import ReleaseWatch.Host.Network
import ReleaseWatch.Log
import ReleaseWatch.Value.Text

/-!
# Postings of a feed

A decoded feed is a list of mappings, one for each posting. Feeds differ in the names of their
fields, so that each field of a posting has several sources, of which the first one that
counts as true is taken.
-/

namespace ReleaseWatch

/-- One posting of a feed; the values of the first four fields are taken as they come. -/
structure Posting where
  title : Value
  description : Value
  link : Value
  publishedAt : Value
  guid : String
  category : String

namespace Posting

/-- The first value that counts as true, or else the last one. -/
def firstTruthy : List Value → Value
  | [] => .null
  | [value] => value
  | value :: rest => if value.isTruthy then value else firstTruthy rest

/-- The value under the first of some keys that counts as true, or else the empty text. -/
def textUnder (fields : Mapping) (keys : List String) : Value :=
  firstTruthy (keys.map fields.get ++ [.text ""])

/-- The first term among tags that counts as true, or else the empty text. -/
def firstTerm : List Value → Except Failure String
  | [] => .ok ""
  | .mapping fields :: rest =>
      let term := Mapping.get fields "term"
      if term.isTruthy then term.toText else firstTerm rest
  | _ :: _ => .error .mappingExpected

/--
The category that tags give; what is no list of tags
fails, by the kind of its elements if it has any.
-/
def tagCategory : Value → Except Failure String
  | .list tags => firstTerm tags
  | .text content => if content = "" then .ok "" else .error .mappingExpected
  | .mapping fields => if fields.isEmpty then .ok "" else .error .mappingExpected
  | .scalar content => if content.isTruthy then .error .listExpected else .ok ""

/-- The category of a posting, from its own field or from its tags. -/
def categoryOf (fields : Mapping) : Except Failure String :=
  if (fields.get "category").isTruthy then (fields.get "category").toText
  else tagCategory (fields.get "tags")

/-- Reads a posting; its guid falls back to the link. -/
def ofFields (fields : Mapping) : Except Failure Posting := do
  let guid ← (textUnder fields ["id", "guid", "link"]).toText
  let category ← categoryOf fields
  return {
    title := textUnder fields ["title"]
    description := textUnder fields ["description", "summary"]
    link := textUnder fields ["link"]
    publishedAt := firstTruthy [fields.get "published", fields.get "updated"]
    guid, category }

/-- Reads a posting that has to be a mapping. -/
def ofValue : Value → Except Failure Posting
  | .mapping fields => ofFields fields
  | _ => .error .mappingExpected

/-- The text that a field has to be. -/
def fieldText : Value → Except Failure (Option String)
  | .text content => .ok (some content)
  | .null => .ok none
  | _ => .error .textExpected

/-- The item of a posting whose fields are texts. -/
def toItem (posting : Posting) : Except Failure Item := do
  return {
    title := ← fieldText posting.title
    description := ← fieldText posting.description
    link := ← fieldText posting.link
    publishedAt := ← fieldText posting.publishedAt
    guid := some posting.guid
    category := some posting.category }

end Posting

/-- What the body of a feed was decoded to. -/
structure DecodedFeed where
  entries : List Value := []
  /-- Whether something was wrong with the body. -/
  isMalformed : Bool := false
  /-- What was wrong with it. -/
  reason : Value := .null

namespace DecodedFeed

/-- The postings of a feed; a malformed one without any is refused. -/
def postings (feed : DecodedFeed) (url : String) : Except Failure (List Posting) :=
  if feed.isMalformed && feed.entries.isEmpty then do
    let reason ← feed.reason.toText
    throw (.fetch (.malformed url reason))
  else feed.entries.mapM Posting.ofValue

end DecodedFeed

/-- The postings of the feed behind an address, by the answer to the request for it. -/
def fetchPostings (url : String) (answer : Answer) (decode : String → DecodedFeed) :
    Logged (List Posting) := do
  Logged.write .info ("Fetching RSS from " ++ url)
  match answer.body? with
  | none => Logged.ofExcept (.error (.fetch (.unreachable url)))
  | some body => Logged.ofExcept ((decode body).postings url)

end ReleaseWatch
