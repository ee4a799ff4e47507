import YiiNavigator.FileSystem.Store
import YiiNavigator.Main
import YiiNavigator.Proofs.Source.Body
import YiiNavigator.Proofs.Diagnostic.Growth
import YiiNavigator.Proofs.Source.ArrayKeys
import YiiNavigator.Proofs.Text.Position
import YiiNavigator.Proofs.Text.Reader
import YiiNavigator.Proofs.Diagnostic.Placement
import YiiNavigator.Proofs.Path.Plain
import YiiNavigator.Proofs.Path.Settled
import YiiNavigator.Proofs.Workspace
import YiiNavigator.Proofs.Controller.Naming
import YiiNavigator.Proofs.View.OfAction
import YiiNavigator.Proofs.Controller.RoundTrip
import YiiNavigator.Proofs.FileSystem.History
import YiiNavigator.Proofs.Route.Target
import YiiNavigator.Proofs.Diagnostic.Repetition
import YiiNavigator.Proofs.CommandLine.Agreement
import YiiNavigator.Proofs.Action.Header
import YiiNavigator.Proofs.Action.Catalog
import YiiNavigator.Proofs.Action.Nesting
import YiiNavigator.Proofs.FileSystem.Tree
import YiiNavigator.Proofs.Path.Below
import YiiNavigator.Proofs.Text.Utf8
import YiiNavigator.Proofs.FileSystem.Mirror
import YiiNavigator.Proofs.FileSystem.Agreement
import YiiNavigator.Proofs.Text.Line
import YiiNavigator.Proofs.View.RenderCall
import YiiNavigator.Proofs.Source.Limit
import YiiNavigator.Proofs.Source.TopLevel
import YiiNavigator.Proofs.Action.Appending
import YiiNavigator.Proofs.Path.Canonical
import YiiNavigator.Proofs.View.Segments
import YiiNavigator.Proofs.Layout
import YiiNavigator.Proofs.View.Roots
import YiiNavigator.Proofs.Controller.Lookup
import YiiNavigator.Proofs.Path.Joining
import YiiNavigator.Proofs.View.Alias
import YiiNavigator.Proofs.Path.NormalForm
import YiiNavigator.Proofs.NormalForm
import YiiNavigator.Proofs.Diagnostic.Partial
import YiiNavigator.Proofs.Project
import YiiNavigator.Proofs.Text.Cursor
import YiiNavigator.Proofs.View.Listing
import YiiNavigator.Proofs.Diagnostic.Clean
import YiiNavigator.Proofs.Route.Respelling
import YiiNavigator.Proofs.Path.Parts
import YiiNavigator.Proofs.Diagnostic.Merging
import YiiNavigator.Proofs.Controller.ViewName
import YiiNavigator.Proofs.Controller.Outcome
import YiiNavigator.Proofs.Path.Segments
import YiiNavigator.Proofs.Workspace.Module
