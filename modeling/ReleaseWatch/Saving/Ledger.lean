import ReleaseWatch.Entry.Basic

/-!
# The ledger

The ledger lists the entries that were saved, by number. A number is entered once: a row
that is there never changes. Its numbers have 64 bits, so a greater one can be neither
looked up nor entered. An entry without a number gets the next free one, and one without a
title is not entered at all.
-/

namespace ReleaseWatch

structure LedgerRow where
  id : Int
  title : String
  link : String
  name : Option String
  episode : Option Int
  deriving DecidableEq

structure Ledger where
  /-- The rows, in ascending order of their numbers. -/
  rows : List LedgerRow := []

namespace Ledger

/-- The greatest number that a ledger can hold. -/
def greatestId : Int := 0x7FFFFFFFFFFFFFFF

def fits (number : Int) : Bool :=
  -greatestId - 1 ≤ number && number ≤ greatestId

/-- Refuses a number that does not have 64 bits. -/
def checkFits (number : Int) : Except Failure Unit :=
  if fits number then .ok () else .error .integerTooWide

def ids (ledger : Ledger) : List Int :=
  ledger.rows.map (·.id)

def holds (ledger : Ledger) (id : Int) : Except Failure Bool := do
  checkFits id
  return ledger.ids.contains id

/-- Enters a row where its number belongs, unless that is there. -/
def insertRow (row : LedgerRow) : List LedgerRow → List LedgerRow
  | [] => [row]
  | first :: rest =>
      if row.id < first.id then row :: first :: rest
      else if row.id = first.id then first :: rest
      else first :: insertRow row rest

/-- The number for an entry without one: the one after the greatest, or else the least free one. -/
def nextId (ledger : Ledger) : Int :=
  match ledger.ids.max? with
  | none => 1
  | some greatest =>
      if greatest < greatestId then greatest + 1
      else
        (((List.range (ledger.rows.length + 1)).map fun index : Nat => (index : Int) + 1).find?
          fun id => !ledger.ids.contains id).getD 1

/-- The ledger with an entry, or as it is if the number is there or the title missing. -/
def enter (ledger : Ledger) (entry : Entry) : Except Failure Ledger := do
  entry.id.forM checkFits
  entry.info.forM fun info => checkFits info.ep
  match entry.title with
  | none => return ledger
  | some title =>
      let row : LedgerRow :=
        { id := entry.id.getD ledger.nextId
          title
          link := entry.torrentUrl
          name := entry.info.bind (·.name)
          episode := entry.info.map (·.ep) }
      return { rows := insertRow row ledger.rows }

end Ledger

end ReleaseWatch
