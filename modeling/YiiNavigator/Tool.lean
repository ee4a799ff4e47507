import YiiNavigator.Diagnostic.Checks
import YiiNavigator.Layout
import YiiNavigator.Route

/-!
# The tools of a server

Each tool answers one question about a workspace with rows of data, or with an error text. The
command line shows the same rows.
-/

namespace YiiNavigator

/-! ## Rows -/

/-- An action as it is listed; lines are counted from one. -/
structure ActionRow where
  name : Text
  line : Int
  bodyStart : Int
  bodyEnd : Option Int
deriving DecidableEq, Repr

/-- The row of an action. -/
def ActionRow.ofAction (a : Action) : ActionRow :=
  ⟨a.name, a.position.row + 1, a.bodyStart, a.bodyEnd⟩

/-- A diagnostic as it is listed; lines and columns are counted from one. -/
structure DiagnosticRow where
  code : Text
  severity : Severity
  message : Text
  line : Int
  column : Int
deriving DecidableEq, Repr

/-- The row of a diagnostic. -/
def DiagnosticRow.ofDiagnostic (d : Diagnostic) : DiagnosticRow :=
  ⟨d.problem.code, d.problem.severity, d.problem.message, d.start.row + 1, d.start.column + 1⟩

/-- A file, and whether it exists. -/
structure FileRow where
  path : Text
  isPresent : Bool
deriving DecidableEq, Repr

namespace Tool

/-! ## Requests and answers -/

/-- A question to a tool. Without a root the root of the server is meant. -/
inductive Request where
  | listActions (path : Text)
  | findViews (path : Text) (action : Option Text) (offset : Option Int) (root : Option Text)
  | resolveView (name file : Text) (isPartial : Bool) (root : Option Text)
  | findController (path : Text) (root : Option Text)
  | findRoute (route file : Text) (root : Option Text)
  | findLayout (name file : Text) (root : Option Text)
  | checkViewPaths (path : Text) (root : Option Text)
deriving DecidableEq, Repr

/-- The data that answers a question. -/
inductive Answer where
  | actions (rows : List ActionRow)
  | views (rows : List ViewFile)
  | view (row : ViewFile)
  | controller (row : ControllerAction)
  | layout (row : FileRow)
  | diagnostics (rows : List DiagnosticRow)
deriving DecidableEq, Repr

/-- Why a question has no answer. -/
inductive Refusal where
  /-- Neither an action nor an offset is given. -/
  | noSelection
  | failure (f : Failure)
  | misuse (m : Misuse)
deriving DecidableEq, Repr

/-- The text that is returned instead of an answer. -/
def Refusal.message : Refusal → Text
  | misuse m => m.message
  | noSelection => "Error: either 'action' or 'offset' must be provided.".toList
  | failure f => "Error: ".toList ++ f.kind.name ++ ": ".toList ++ f.message

/-! ## The tools -/

/-- The text of a document. -/
def document (fs : FileSystem) (path : Text) : Except Refusal Text :=
  (fs.readText path).mapError fun
    | .misuse m => .misuse m
    | e => .failure (.unreadable path e.message)

/-- The root that a question is about. The empty root is no root. -/
def rootOr (serverRoot : Text) (root : Option Text) : Text :=
  match root with
  | none => serverRoot
  | some [] => serverRoot
  | some root => root

/-- The actions of a document. -/
def listActions (conv : Convention) (fs : FileSystem) (path : Text) :
    Except Refusal (List ActionRow) := do
  let text ← document fs path
  return (Action.catalog conv text).map .ofAction

/-- The views that an action of a document renders. -/
def findViews (conv : Convention) (fs : FileSystem) (root path : Text) (action : Option Text)
    (offset : Option Int) : Except Refusal (List ViewFile) := do
  let selection ← (Selection.of action offset).mapError fun _ => Refusal.noSelection
  let text ← document fs path
  (View.ofAction conv fs root path text selection).mapError .failure

/-- The file of a view name. -/
def resolveView (conv : Convention) (fs : FileSystem) (root file name : Text) (isPartial : Bool) :
    Except Failure ViewFile :=
  match ViewRoots.of? conv root file with
  | none => .error (.neitherControllerNorView file)
  | some roots => View.resolve conv fs roots root (.ofName name isPartial)

/-- The file of a layout name. -/
def findLayout (conv : Convention) (fs : FileSystem) (root file name : Text) : FileRow :=
  let path := Layout.file conv fs root file name
  ⟨path, fs.has path⟩

/-- The diagnostics of a document. -/
def checkViewPaths (conv : Convention) (fs : FileSystem) (root path : Text) :
    Except Refusal (List DiagnosticRow) := do
  let text ← document fs path
  return (Diagnostic.ofDocument conv fs root path text).map .ofDiagnostic

/-- The answer to a question. -/
def answer (conv : Convention) (fs : FileSystem) (serverRoot : Text) :
    Request → Except Refusal Answer
  | .listActions path => (listActions conv fs path).map .actions
  | .findViews path action offset root =>
    (findViews conv fs (rootOr serverRoot root) path action offset).map .views
  | .resolveView name file isPartial root =>
    ((resolveView conv fs (rootOr serverRoot root) file name isPartial).map
      Answer.view).mapError .failure
  | .findController path root =>
    ((Controller.ofView conv fs (some (rootOr serverRoot root)) path).map
      Answer.controller).mapError .failure
  | .findRoute route file root =>
    ((Route.target conv fs (rootOr serverRoot root) file route).map
      Answer.controller).mapError .failure
  | .findLayout name file root =>
    .ok (.layout (findLayout conv fs (rootOr serverRoot root) file name))
  | .checkViewPaths path root =>
    (checkViewPaths conv fs (rootOr serverRoot root) path).map .diagnostics

/-- The root of a server that is started for a directory. -/
def serverRoot (fs : FileSystem) (directory : Text) : Text :=
  Path.absoluteText fs.workingDirectory directory

end Tool
end YiiNavigator
