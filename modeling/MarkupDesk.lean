import MarkupDesk.Calendar.Date
import MarkupDesk.Calendar.Timestamp
import MarkupDesk.Dictionary
import MarkupDesk.Drafts.Document
import MarkupDesk.Drafts.Store
import MarkupDesk.Editing.Caret
import MarkupDesk.Editing.Completion
import MarkupDesk.Editing.Lines
import MarkupDesk.Editor.Command
import MarkupDesk.Editor.Keys
import MarkupDesk.Editor.Notice
import MarkupDesk.Editor.Saving
import MarkupDesk.Editor.Scroll
import MarkupDesk.Editor.State
import MarkupDesk.Editor.View
import MarkupDesk.Files.Access
import MarkupDesk.Files.Disk
import MarkupDesk.Files.Listing
import MarkupDesk.Files.Path
import MarkupDesk.Files.Record
import MarkupDesk.Html.Escape
import MarkupDesk.Json.Printer
import MarkupDesk.Json.Problem
import MarkupDesk.Json.Reader
import MarkupDesk.Json.Shape
import MarkupDesk.Json.Token
import MarkupDesk.Json.Value
import MarkupDesk.Main
import MarkupDesk.Markup.Block
import MarkupDesk.Markup.Compile
import MarkupDesk.Markup.Configuration
import MarkupDesk.Markup.Expansion
import MarkupDesk.Markup.Marker
import MarkupDesk.Number.Binary64
import MarkupDesk.Number.Notation
import MarkupDesk.Number.Power
import MarkupDesk.Number.Shortest
import MarkupDesk.Page
import MarkupDesk.Panic
import MarkupDesk.Preset.Basic
import MarkupDesk.Preset.Builtin
import MarkupDesk.Preset.Catalog
import MarkupDesk.Preset.Loading
import MarkupDesk.Proofs.Markup.Nesting
import MarkupDesk.Proofs.Markup.OnePass
import MarkupDesk.Proofs.Markup.Output
import MarkupDesk.Proofs.Markup.Passes
import MarkupDesk.Proofs.Markup.Piece
import MarkupDesk.Proofs.Markup.Separate
import MarkupDesk.Proofs.Markup.Sweep
import MarkupDesk.Proofs.Markup.Tag
import MarkupDesk.Proofs.Text.Search
import MarkupDesk.Proofs.Text.Trim
import MarkupDesk.Screen.Geometry
import MarkupDesk.Screen.Wrap
import MarkupDesk.Session
import MarkupDesk.Settings.Basic
import MarkupDesk.Settings.EditorCommand
import MarkupDesk.Settings.File
import MarkupDesk.Settings.Format
import MarkupDesk.Shell.Arguments
import MarkupDesk.Shell.Failure
import MarkupDesk.Shell.Invocation
import MarkupDesk.Shell.Programs
import MarkupDesk.Shell.Run
import MarkupDesk.Shell.Words
import MarkupDesk.Text.Basic
import MarkupDesk.Text.Blank
import MarkupDesk.Text.CaseTable
import MarkupDesk.Text.Digits
import MarkupDesk.Text.Lower
import MarkupDesk.Text.PrintTable
import MarkupDesk.Text.Quoted
import MarkupDesk.Text.Ranges
import MarkupDesk.Text.Width
import MarkupDesk.Text.WidthTable
import MarkupDesk.Theme
import MarkupDesk.Toml.Assembly
import MarkupDesk.Toml.Printer
import MarkupDesk.Toml.Problem
import MarkupDesk.Toml.Reader
import MarkupDesk.Toml.Scalar
import MarkupDesk.Toml.Value
import MarkupDesk.Proofs.Json.ReadBack
import MarkupDesk.Proofs.Task
import MarkupDesk.Proofs.Files.Path
import MarkupDesk.Proofs.Files.Reach
import MarkupDesk.Proofs.Files.Access
import MarkupDesk.Proofs.Drafts.Document
import MarkupDesk.Proofs.Drafts.Slot
import MarkupDesk.Proofs.Drafts.Shelf
import MarkupDesk.Proofs.Drafts.Reading
import MarkupDesk.Proofs.Drafts.Shelved
import MarkupDesk.Proofs.Drafts.Operations
import MarkupDesk.Proofs.Drafts.Refinement
import MarkupDesk.Proofs.Calendar.Date
import MarkupDesk.Proofs.Calendar.Timestamp
import MarkupDesk.Proofs.Json.Yield
import MarkupDesk.Proofs.Files.Target
import MarkupDesk.Proofs.Effect
import MarkupDesk.Proofs.Files.Effect
import MarkupDesk.Proofs.Drafts.Frame
import MarkupDesk.Proofs.Drafts.Reread
import MarkupDesk.Proofs.Drafts.Quiet
import MarkupDesk.Proofs.Shell.Frame
import MarkupDesk.Proofs.Editor.Errand
import MarkupDesk.Proofs.Editor.Event
import MarkupDesk.Proofs.Editor.Documents
import MarkupDesk.Proofs.Editor.Run
import MarkupDesk.Proofs.Editor.Coherence
import MarkupDesk.Proofs.Editor.Isolation
import MarkupDesk.Proofs.Editor.Unsaved
import MarkupDesk.Proofs.Editor.Deletion
import MarkupDesk.Proofs.Markup.BlankLines
import MarkupDesk.Proofs.Markup.Locality
import MarkupDesk.Proofs.Editing.Lines
import MarkupDesk.Proofs.Editing.Guarded
import MarkupDesk.Proofs.Editor.Cursor
import MarkupDesk.Proofs.Editor.Guarded
import MarkupDesk.Proofs.Drafts.Healing
import MarkupDesk.Proofs.Drafts.Update
import MarkupDesk.Proofs.Drafts.Failure
import MarkupDesk.Proofs.Editing.Completion
import MarkupDesk.Proofs.Editor.Display
import MarkupDesk.Proofs.Editor.Popup
import MarkupDesk.Proofs.Editor.Preview
import MarkupDesk.Proofs.Editor.Solitary
import MarkupDesk.Proofs.Editor.Agreement
import MarkupDesk.Proofs.Files.Within
import MarkupDesk.Proofs.Files.Written
import MarkupDesk.Proofs.Page
import MarkupDesk.Proofs.Drafts.Effect
import MarkupDesk.Proofs.Drafts.Separation
import MarkupDesk.Proofs.Markup.Suggested
import MarkupDesk.Proofs.Text.Pieces
import MarkupDesk.Proofs.Markup.Substitution
import MarkupDesk.Proofs.Markup.LineRuns
import MarkupDesk.Proofs.Editing.Pairs
import MarkupDesk.Proofs.Editor.Typing
import MarkupDesk.Proofs.Editing.Motion
import MarkupDesk.Proofs.Editing.Column
import MarkupDesk.Proofs.Editor.Travel
import MarkupDesk.Proofs.Text.Replace
import MarkupDesk.Proofs.Page.Template
import MarkupDesk.Proofs.Drafts.Deletion
import MarkupDesk.Proofs.Json.Plain
import MarkupDesk.Proofs.Markup.Configuration
import MarkupDesk.Proofs.Dictionary
import MarkupDesk.Proofs.Files.Parent
import MarkupDesk.Proofs.Files.Ancestor
import MarkupDesk.Proofs.Files.Atomic
import MarkupDesk.Proofs.Editing.Suggestion
import MarkupDesk.Proofs.Preset.Catalog
import MarkupDesk.Proofs.Toml.Strings
import MarkupDesk.Proofs.Toml.Document
import MarkupDesk.Proofs.Toml.Members
import MarkupDesk.Proofs.Settings.Format
import MarkupDesk.Proofs.Settings.Stability
import MarkupDesk.Proofs.Screen.Wrap
import MarkupDesk.Proofs.Number.Rounding
import MarkupDesk.Proofs.Screen.Geometry
import MarkupDesk.Proofs.Editor.Scroll
import MarkupDesk.Proofs.Html.Escape
import MarkupDesk.Proofs.Markup.InsertionOrder
import MarkupDesk.Proofs.Composed
import MarkupDesk.Proofs.Files.Way
import MarkupDesk.Proofs.Files.Step
import MarkupDesk.Proofs.Drafts.Step
import MarkupDesk.Proofs.Drafts.Own
