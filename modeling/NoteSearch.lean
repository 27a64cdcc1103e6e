import NoteSearch.Calendar.Date
import NoteSearch.Calendar.Timestamp
import NoteSearch.Files.FilePath
import NoteSearch.Files.Volume
import NoteSearch.Highlight.Node
import NoteSearch.Highlight.Segments
import NoteSearch.Highlight.Snippet
import NoteSearch.Highlight.Terms
import NoteSearch.Json.Decode
import NoteSearch.Json.Number
import NoteSearch.Json.Token
import NoteSearch.Json.Tree
import NoteSearch.Json.Value
import NoteSearch.Proofs.Session.Calls
import NoteSearch.Proofs.Session.ExecutedFilter
import NoteSearch.Proofs.Session.Executions
import NoteSearch.Proofs.Session.FilterChanges
import NoteSearch.Proofs.Session.LatestAnswer
import NoteSearch.Proofs.Session.Loading
import NoteSearch.Proofs.Session.Moves
import NoteSearch.Proofs.Session.Panes
import NoteSearch.Rehearsal.Run
import NoteSearch.Rehearsal.Server
import NoteSearch.Rehearsal.Service
import NoteSearch.Rehearsal.Stage
import NoteSearch.Search.Facets
import NoteSearch.Search.Filter
import NoteSearch.Search.Request
import NoteSearch.Search.TagSet
import NoteSearch.Search.Watched
import NoteSearch.Service.Call
import NoteSearch.Service.Failure
import NoteSearch.Service.Notes
import NoteSearch.Service.Results
import NoteSearch.Service.SavedSearch
import NoteSearch.Service.Usage
import NoteSearch.Session.Events
import NoteSearch.Session.Insights
import NoteSearch.Session.Key
import NoteSearch.Session.NotePane
import NoteSearch.Session.Operations
import NoteSearch.Session.SavedPane
import NoteSearch.Session.SearchBox
import NoteSearch.Session.SearchPane
import NoteSearch.Session.Settings
import NoteSearch.Session.State
import NoteSearch.Session.Suggestions
import NoteSearch.Setup.Configuration
import NoteSearch.Setup.EnvFile
import NoteSearch.Setup.Profile
import NoteSearch.Setup.ProfileStore
import NoteSearch.Setup.Variables
import NoteSearch.Text.Alphanumeric
import NoteSearch.Text.Blank
import NoteSearch.Text.CaseContext
import NoteSearch.Text.Hex
import NoteSearch.Text.Lower
import NoteSearch.Text.LowerTable
import NoteSearch.Text.Numeral
import NoteSearch.Text.Ordered
import NoteSearch.Text.Pieces
import NoteSearch.Toml.Item
import NoteSearch.Toml.Printer
import NoteSearch.Toml.Reader
import NoteSearch.Web.Address
import NoteSearch.Web.Charset
import NoteSearch.Web.Client
import NoteSearch.Web.CodePage
import NoteSearch.Web.Form
import NoteSearch.Web.MediaType
import NoteSearch.Web.Message
import NoteSearch.Wire.Facets
import NoteSearch.Wire.Notes
import NoteSearch.Wire.Request
import NoteSearch.Wire.Results
import NoteSearch.Wire.SavedSearch
import NoteSearch.Wire.Settings
import NoteSearch.Wire.Usage
import NoteSearch.Proofs.Search.NormalForm
import NoteSearch.Highlight.Scan
import NoteSearch.Proofs.Highlight.Matching
import NoteSearch.Proofs.Highlight.Segmentation
import NoteSearch.Proofs.Highlight.Scanning
import NoteSearch.Proofs.Highlight.Marking
import NoteSearch.Proofs.Session.Turns
import NoteSearch.Session.Screen
import NoteSearch.Proofs.Session.BlankSubmit
import NoteSearch.Proofs.Session.Elsewhere
import NoteSearch.Proofs.Session.Moments
import NoteSearch.Proofs.Session.QuietTimes
import NoteSearch.Proofs.Session.Keys
import NoteSearch.Proofs.Session.LiveWrites
import NoteSearch.Proofs.Session.CompletionChanges
import NoteSearch.Proofs.Session.CompletionCalls
import NoteSearch.Proofs.Session.Completions
import NoteSearch.Proofs.Session.SentRequests
import NoteSearch.Proofs.Session.Overtaking
import NoteSearch.Proofs.Session.PaneContents
import NoteSearch.Proofs.Session.Focus
import NoteSearch.Proofs.Session.NoteListing
import NoteSearch.Proofs.Session.SavedItems
import NoteSearch.Proofs.Session.InsightsLoads
import NoteSearch.Proofs.Session.Notices
import NoteSearch.Proofs.Session.NotePages
import NoteSearch.Proofs.Wire.StoredSearches
import NoteSearch.Proofs.Wire.Timestamps
import NoteSearch.Proofs.Search.Patches
import NoteSearch.Proofs.Search.Pages
import NoteSearch.Proofs.Session.LiveWriteEffects
import NoteSearch.Proofs.Session.KeyboardChoice
import NoteSearch.Proofs.Text.Words
import NoteSearch.Proofs.Highlight.QueryTerms
import NoteSearch.Proofs.Text.FinalSigma
import NoteSearch.Proofs.Highlight.TypedWords
import NoteSearch.Proofs.Session.Leads
import NoteSearch.Proofs.Session.Navigations
import NoteSearch.Proofs.Session.SavedActions
import NoteSearch.Proofs.Highlight.Snippets
import NoteSearch.Proofs.Web.Explanations
import NoteSearch.Proofs.Calendar.Readings
import NoteSearch.Proofs.Json.Composition
import NoteSearch.Proofs.Wire.Listings
import NoteSearch.Proofs.Highlight.SpelledTerms
import NoteSearch.Proofs.Files.Paths
import NoteSearch.Proofs.Files.Volumes
import NoteSearch.Proofs.Setup.ProfileNames
import NoteSearch.Proofs.Setup.ProfileHistory
import NoteSearch.Proofs.Text.Utf8
import NoteSearch.Proofs.Json.Gaps
