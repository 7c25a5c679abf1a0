import Tabula.App.Keys
import Tabula.App.Picture
import Tabula.App.State
import Tabula.Cli.Options
import Tabula.Cli.Run
import Tabula.Command.Action
import Tabula.Command.Edit
import Tabula.Command.Execute
import Tabula.Command.Line
import Tabula.Command.Path
import Tabula.Command.Resolve
import Tabula.Decimal.Nearest
import Tabula.Decimal.Shortest
import Tabula.Json.Print
import Tabula.Json.Read
import Tabula.Json.Shape
import Tabula.Json.Value
import Tabula.Layout.Program
import Tabula.Layout.Split
import Tabula.Main
import Tabula.Model.Document
import Tabula.Model.Entry
import Tabula.Model.Fresh
import Tabula.Model.Key
import Tabula.Model.Navigation
import Tabula.Model.Sample
import Tabula.Model.Table
import Tabula.Proofs.AbsolutePaths
import Tabula.Proofs.BackupNames
import Tabula.Proofs.BackupOrder
import Tabula.Proofs.Ascend
import Tabula.Proofs.Atomic
import Tabula.Proofs.Borrow
import Tabula.Proofs.CommandGrammar
import Tabula.Proofs.CommandWords
import Tabula.Proofs.CursorKeys
import Tabula.Proofs.CellEntry
import Tabula.Proofs.DisplayOrder
import Tabula.Proofs.GroupBy
import Tabula.Proofs.KeyMap
import Tabula.Proofs.Lanes
import Tabula.Proofs.OptionGrammar
import Tabula.Proofs.Keys
import Tabula.Proofs.PathText
import Tabula.Proofs.Stamps
import Tabula.Proofs.Place
import Tabula.Proofs.RoundTrip
import Tabula.Proofs.Steps
import Tabula.Proofs.Trim
import Tabula.Proofs.ViewArguments
import Tabula.Proofs.WellFormed
import Tabula.Proofs.Words
import Tabula.Query.Kanban
import Tabula.Query.Location
import Tabula.Screen.Grid
import Tabula.Screen.Reflow
import Tabula.Screen.Widgets
import Tabula.Store.Archive
import Tabula.Store.Calendar
import Tabula.Store.Error
import Tabula.Store.FileTree
import Tabula.Store.Files
import Tabula.Store.Folder
import Tabula.Store.Snapshot
import Tabula.Text.Blank
import Tabula.Text.Columns
import Tabula.Text.Escaped
import Tabula.Text.Graphemes
import Tabula.Text.Lower
import Tabula.Text.Ranges
