import ReleaseWatch.Host.Desk
import ReleaseWatch.Proofs.Saving.History

/-!
# Saves on a desk

Each action of a save on a desk changes one part of it: the history, the files, the
network or the ledger. So a desk is a host that has a ledger, and what the others say
about such hosts holds of it.
-/

namespace ReleaseWatch

namespace Desk

/-- What a save can leave behind on a desk besides the ledger and the log. -/
structure Traces where
  files : FileTree
  wrote : List (Nat × String)
  printed : List String
  requested : List String

def traces (desk : Desk) : Traces where
  files := desk.files
  wrote := desk.events.filterMap Event.wrote?
  printed := desk.events.filterMap Event.printed?
  requested := desk.events.filterMap Event.requested?

theorem traces_logged (desk : Desk) (line : LogLine) :
    (desk.remember (.logged line)).traces = desk.traces := by
  simp [traces, events, remember, Event.wrote?, Event.printed?, Event.requested?]

section Actions

variable (holder settingsPath : String) (document? : String → Option Value)

theorem appendFile_eq (path text : String) :
    (host holder settingsPath document?).appendFile (.path path) text =
      changeFiles fun files => files.append path text := rfl

/-- What is written to a file that was open already is seen only in the history. -/
theorem perform_appendFile_number (number : Nat) (text : String) (desk : Desk) :
    perform ((host holder settingsPath document?).appendFile (.number number) text) desk =
      if desk.opened.contains number then
        (.ok (), remember (.wrote number text) { desk with opened := desk.opened.erase number })
      else (.error (.file .notOpen), desk) := by
  have unfolded : perform ((host holder settingsPath document?).appendFile (.number number) text)
      desk = perform (if desk.opened.contains number then
        set (remember (.wrote number text) { desk with opened := desk.opened.erase number })
      else throw (.file .notOpen)) desk := rfl
  rw [unfolded]
  split <;> rfl

theorem writeFile_eq (path text : String) :
    (host holder settingsPath document?).writeFile path text = changeFiles fun files =>
      files.write path text := rfl

theorem moveFile_eq (source target : String) :
    (host holder settingsPath document?).moveFile source target =
      changeFiles fun files => files.move source target := rfl

/-- An action that changes the files leaves the desk as it is if it fails. -/
theorem perform_changeFiles (step : FileTree → Except Failure FileTree) (desk : Desk) :
    perform (changeFiles step) desk =
      match step desk.files with
      | .ok files => (.ok (), { desk with files })
      | .error failure => (.error failure, desk) := by
  have unfolded : perform (changeFiles step) desk =
      perform (ExceptT.mk (pure (step desk.files)) >>= fun files => set { desk with files }) desk :=
        rfl
  rw [unfolded]
  cases step desk.files with
  | ok files => rfl
  | error failure => rfl

theorem perform_ledgerHolds (id : Int) (desk : Desk) :
    perform ((host holder settingsPath document?).ledgerHolds id) desk =
      (desk.ledger.holds id, desk) := rfl

theorem perform_isSaved (entry : Entry) (desk : Desk) :
    (perform (SaveSettings.isSaved (host holder settingsPath document?) entry) desk).2 = desk := by
  unfold SaveSettings.isSaved
  cases entry.id with
  | none => rfl
  | some id => rfl

theorem perform_enterLedger (entry : Entry) (desk : Desk) :
    perform ((host holder settingsPath document?).enterLedger entry) desk =
      match desk.ledger.enter entry with
      | .ok ledger => (.ok (), { desk with ledger })
      | .error failure => (.error failure, desk) := by
  have unfolded : perform ((host holder settingsPath document?).enterLedger entry) desk =
      perform (ExceptT.mk (pure (desk.ledger.enter entry)) >>= fun ledger =>
        set { desk with ledger }) desk := rfl
  rw [unfolded]
  cases desk.ledger.enter entry with
  | ok ledger => rfl
  | error failure => rfl

theorem eq_of_changeFiles_fails {step : FileTree → Except Failure FileTree} {desk reached : Desk}
    {failure : Failure}
    (failed : perform (changeFiles step) desk = (.error failure, reached)) : reached = desk := by
  rw [perform_changeFiles] at failed
  split at failed
  · cases failed
  · cases failed
    rfl

theorem exists_of_changeFiles_succeeds {step : FileTree → Except Failure FileTree}
    {desk reached : Desk} (succeeded : perform (changeFiles step) desk = (.ok (), reached)) :
    ∃ files, step desk.files = .ok files ∧ reached = { desk with files } := by
  rw [perform_changeFiles] at succeeded
  split at succeeded
  · next files stepped =>
      cases succeeded
      exact ⟨files, stepped, rfl⟩
  · cases succeeded

theorem ledger_changeFiles (step : FileTree → Except Failure FileTree) (desk : Desk) :
    (perform (changeFiles step) desk).2.ledger = desk.ledger := by
  rw [perform_changeFiles]
  split <;> rfl

theorem hasLedger : (host holder settingsPath document?).HasLedger Desk.ledger traces where
  log line desk := ⟨rfl, desk.traces_logged line⟩
  print _ _ := rfl
  append file text desk := by
    cases file with
    | path path => rw [appendFile_eq, ledger_changeFiles]
    | number number =>
        rw [perform_appendFile_number]
        split <;> rfl
  write path text desk := by rw [writeFile_eq, ledger_changeFiles]
  move source target desk := by rw [moveFile_eq, ledger_changeFiles]
  request _ _ := rfl
  look id desk := ⟨desk, perform_ledgerHolds holder settingsPath document? id desk, rfl, rfl⟩
  enter entry desk := by
    rw [perform_enterLedger]
    cases desk.ledger.enter entry with
    | ok ledger => exact ⟨{ desk with ledger }, rfl, rfl⟩
    | error failure => exact ⟨desk, rfl, rfl⟩

end Actions

/-- A desk as the host of a watcher that reads no settings. -/
def plainHost : Host (StateM Desk) :=
  host "watcher" "torrentsieve.yaml" fun _ => none

theorem hasLedger_plainHost : plainHost.HasLedger Desk.ledger traces :=
  hasLedger "watcher" "torrentsieve.yaml" fun _ => none

end Desk

end ReleaseWatch
