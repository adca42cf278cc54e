import ReleaseWatch.Entry.Basic
import ReleaseWatch.Entry.Description
import ReleaseWatch.Entry.Extraction
import ReleaseWatch.Entry.Selection
import ReleaseWatch.Entry.Wrapper
import ReleaseWatch.Failure
import ReleaseWatch.Feed.Posting
import ReleaseWatch.Feed.Processor
import ReleaseWatch.Feed.State
import ReleaseWatch.Files.Tree
import ReleaseWatch.Host.Basic
import ReleaseWatch.Host.Desk
import ReleaseWatch.Host.Lock
import ReleaseWatch.Host.Network
import ReleaseWatch.Info
import ReleaseWatch.Log
import ReleaseWatch.Macro.Expansion
import ReleaseWatch.Macro.Template
import ReleaseWatch.Main
import ReleaseWatch.Number.Binary64
import ReleaseWatch.Number.Reading
import ReleaseWatch.Number.Shortest
import ReleaseWatch.Pattern.Basic
import ReleaseWatch.Pattern.Reading
import ReleaseWatch.Pattern.Search
import ReleaseWatch.Pattern.Title
import ReleaseWatch.Pattern.Token
import ReleaseWatch.Proofs.Action
import ReleaseWatch.Proofs.Entry.Address
import ReleaseWatch.Proofs.Entry.Amount
import ReleaseWatch.Proofs.Entry.BestVersion
import ReleaseWatch.Proofs.Entry.DownloadUrl
import ReleaseWatch.Proofs.Entry.Element
import ReleaseWatch.Proofs.Entry.Guid
import ReleaseWatch.Proofs.Entry.Layout
import ReleaseWatch.Proofs.Entry.Order
import ReleaseWatch.Proofs.Entry.Piecewise
import ReleaseWatch.Proofs.Entry.Selection
import ReleaseWatch.Proofs.Entry.Wrapping
import ReleaseWatch.Proofs.Feed.Atomicity
import ReleaseWatch.Proofs.Feed.Category
import ReleaseWatch.Proofs.Feed.Commitment
import ReleaseWatch.Proofs.Feed.Consistency
import ReleaseWatch.Proofs.Feed.Decision
import ReleaseWatch.Proofs.Feed.History
import ReleaseWatch.Proofs.Feed.Isolation
import ReleaseWatch.Proofs.Feed.ItemOrder
import ReleaseWatch.Proofs.Feed.Result
import ReleaseWatch.Proofs.Feed.Run
import ReleaseWatch.Proofs.Feed.Scene
import ReleaseWatch.Proofs.Feed.Staging
import ReleaseWatch.Proofs.Feed.Updates
import ReleaseWatch.Proofs.Feed.Watermark
import ReleaseWatch.Proofs.Files.Tree
import ReleaseWatch.Proofs.Host.Exclusion
import ReleaseWatch.Proofs.Host.Recording
import ReleaseWatch.Proofs.Info.Captures
import ReleaseWatch.Proofs.Info.Comparison
import ReleaseWatch.Proofs.Info.Order
import ReleaseWatch.Proofs.Latest
import ReleaseWatch.Proofs.Macro.CallGraph
import ReleaseWatch.Proofs.Macro.Composition
import ReleaseWatch.Proofs.Macro.DistinctKeys
import ReleaseWatch.Proofs.Macro.Leaves
import ReleaseWatch.Proofs.Macro.Nesting
import ReleaseWatch.Proofs.Macro.OpaqueArguments
import ReleaseWatch.Proofs.Macro.OpenCalls
import ReleaseWatch.Proofs.Macro.RemainingNames
import ReleaseWatch.Proofs.Macro.Templates
import ReleaseWatch.Proofs.Outcome
import ReleaseWatch.Proofs.Pattern.GroupOpening
import ReleaseWatch.Proofs.Rule.Acceptance
import ReleaseWatch.Proofs.Rule.Building
import ReleaseWatch.Proofs.Rule.Check
import ReleaseWatch.Proofs.Rule.Choice
import ReleaseWatch.Proofs.Rule.Meaning
import ReleaseWatch.Proofs.Rule.Policy
import ReleaseWatch.Proofs.Rule.Reload
import ReleaseWatch.Proofs.Rule.Spelling
import ReleaseWatch.Proofs.Saving.Agreement
import ReleaseWatch.Proofs.Saving.Confinement
import ReleaseWatch.Proofs.Saving.Course
import ReleaseWatch.Proofs.Saving.Desk
import ReleaseWatch.Proofs.Saving.Download
import ReleaseWatch.Proofs.Saving.DownloadName
import ReleaseWatch.Proofs.Saving.History
import ReleaseWatch.Proofs.Saving.Ledger
import ReleaseWatch.Proofs.Saving.ListFile
import ReleaseWatch.Proofs.Saving.Listing
import ReleaseWatch.Proofs.Saving.Payload
import ReleaseWatch.Proofs.Settings.Annotations
import ReleaseWatch.Proofs.Settings.Outcome
import ReleaseWatch.Proofs.Text.Label
import ReleaseWatch.Proofs.Text.LeadingNumeral
import ReleaseWatch.Proofs.Text.Lines
import ReleaseWatch.Proofs.Text.Replacement
import ReleaseWatch.Proofs.Text.Runs
import ReleaseWatch.Proofs.Value.Mapping
import ReleaseWatch.Proofs.Watch.Mirroring
import ReleaseWatch.Proofs.Watch.SettingsInForce
import ReleaseWatch.Proofs.Watch.UnderLock
import ReleaseWatch.Rule.Basic
import ReleaseWatch.Rule.Filter
import ReleaseWatch.Rule.Matching
import ReleaseWatch.Saving.Ledger
import ReleaseWatch.Saving.Report
import ReleaseWatch.Saving.Save
import ReleaseWatch.Settings.Basic
import ReleaseWatch.Settings.Default
import ReleaseWatch.Settings.Document
import ReleaseWatch.Settings.Loading
import ReleaseWatch.Settings.LogSetup
import ReleaseWatch.Text.Blank
import ReleaseWatch.Text.CharacterName.Alias
import ReleaseWatch.Text.CharacterName.From0000
import ReleaseWatch.Text.CharacterName.From1000
import ReleaseWatch.Text.CharacterName.From11000
import ReleaseWatch.Text.CharacterName.From14000
import ReleaseWatch.Text.CharacterName.From1B000
import ReleaseWatch.Text.CharacterName.From1D000
import ReleaseWatch.Text.CharacterName.From1E000
import ReleaseWatch.Text.CharacterName.From2000
import ReleaseWatch.Text.CharacterName.From20000
import ReleaseWatch.Text.CharacterName.From3000
import ReleaseWatch.Text.CharacterName.FromF000
import ReleaseWatch.Text.CharacterName.Lookup
import ReleaseWatch.Text.CodeRange
import ReleaseWatch.Text.LetterCase
import ReleaseWatch.Text.Name
import ReleaseWatch.Text.Numeral
import ReleaseWatch.Text.Printable
import ReleaseWatch.Text.Quoted
import ReleaseWatch.Text.Search
import ReleaseWatch.Text.Word
import ReleaseWatch.Value.Basic
import ReleaseWatch.Value.Notation
import ReleaseWatch.Value.Text
import ReleaseWatch.Watch.CommandLine
import ReleaseWatch.Watch.Run
import ReleaseWatch.Watch.Session
