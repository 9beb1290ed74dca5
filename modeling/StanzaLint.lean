import StanzaLint.Address
import StanzaLint.CommandLine
import StanzaLint.Diagnostic
import StanzaLint.Directive
import StanzaLint.Failure
import StanzaLint.Files
import StanzaLint.History
import StanzaLint.Html.Page
import StanzaLint.Main
import StanzaLint.Path
import StanzaLint.Pattern
import StanzaLint.Processor
import StanzaLint.Program
import StanzaLint.Proofs.Additivity
import StanzaLint.Proofs.Agreement
import StanzaLint.Proofs.BareDomains
import StanzaLint.Proofs.Casing
import StanzaLint.Proofs.Citations
import StanzaLint.Proofs.Coherence
import StanzaLint.Proofs.CommandLines
import StanzaLint.Proofs.Continuation
import StanzaLint.Proofs.Decoding
import StanzaLint.Proofs.Deepening
import StanzaLint.Proofs.DepthLimit
import StanzaLint.Proofs.DepthOrder
import StanzaLint.Proofs.Endless
import StanzaLint.Proofs.ExitStatus
import StanzaLint.Proofs.FailureLayers
import StanzaLint.Proofs.Failures
import StanzaLint.Proofs.Findings
import StanzaLint.Proofs.Formats
import StanzaLint.Proofs.FullWriters
import StanzaLint.Proofs.InTurn
import StanzaLint.Proofs.IncludeLayout
import StanzaLint.Proofs.IncludeLists
import StanzaLint.Proofs.Isolation
import StanzaLint.Proofs.Labels
import StanzaLint.Proofs.Ledger
import StanzaLint.Proofs.Leftovers
import StanzaLint.Proofs.Levels
import StanzaLint.Proofs.LineEndings
import StanzaLint.Proofs.Live
import StanzaLint.Proofs.Lockstep
import StanzaLint.Proofs.Moving
import StanzaLint.Proofs.OpenSections
import StanzaLint.Proofs.OptionalChecks
import StanzaLint.Proofs.Origins
import StanzaLint.Proofs.PageTitles
import StanzaLint.Proofs.Paths
import StanzaLint.Proofs.PlainHosts
import StanzaLint.Proofs.Previous
import StanzaLint.Proofs.Profile
import StanzaLint.Proofs.Relocation
import StanzaLint.Proofs.Replay
import StanzaLint.Proofs.Runs
import StanzaLint.Proofs.SettingsFiles
import StanzaLint.Proofs.Sources
import StanzaLint.Proofs.Spellings
import StanzaLint.Proofs.StanzaLines
import StanzaLint.Proofs.StanzaOrder
import StanzaLint.Proofs.StartingPoints
import StanzaLint.Proofs.TitleAndUrl
import StanzaLint.Proofs.Titles
import StanzaLint.Proofs.UrlShapes
import StanzaLint.Proofs.Visits
import StanzaLint.Report
import StanzaLint.Run
import StanzaLint.Settings
import StanzaLint.SettingsFile
import StanzaLint.SourceComment
import StanzaLint.Stanza
import StanzaLint.Toml.Parser
import StanzaLint.UrlLine
