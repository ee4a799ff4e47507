import YiiNavigator.CommandLine.Command
import YiiNavigator.CommandLine.Screen
import YiiNavigator.Convention.Settings
import YiiNavigator.Tool

/-!
# Running a command

A command reads its document, loads the convention, asks the library and shows the answer. It ends
with an exit code: 0, 1 for a failure or for a document with errors, 2 for a misuse. A convention
that cannot be loaded is reported by its faults, but only by commands that come as far as needing
it, and so is a path that no operating system takes.
-/

namespace YiiNavigator
namespace CommandLine

/-- A server that was asked for, with the address it listens at unless it talks to its parent. -/
structure Service where
  transport : Text
  address : Option (Text × Int)
deriving DecidableEq, Repr

namespace Service

/-- The name of the server. -/
def name : Text := "yii-locator".toList

/-- The line that announces a server. -/
def notice (s : Service) : Piece :=
  .line (Style.green.styled ("Starting MCP server (transport: ".toList ++ s.transport ++ [')']))

end Service

/-- What a command leaves behind: its exit code, what it hands to the screen and the server that it
starts. -/
structure Completion where
  exitCode : Nat
  pieces : List Piece
  service : Option Service
deriving DecidableEq, Repr

namespace Completion

/-- A command that ends with a code and shows lines. -/
def showing (exitCode : Nat) (lines : List Text) : Completion :=
  ⟨exitCode, lines.map .line, none⟩

/-- A command that succeeds and shows lines. -/
def success (lines : List Text) : Completion := showing 0 lines

/-- A failure that is shown. -/
def failure (f : Failure) : Completion :=
  showing 1 [Style.red.styled f.kind.name ++ ": ".toList ++ f.message]

/-- A misuse, with a text that says so if there is one. -/
def misuse (lines : List Text) : Completion := showing 2 lines

/-- A command that ends with a code and shows a table. -/
def table (exitCode : Nat) (columns : List String) (rows : List (List Text)) : Completion :=
  ⟨exitCode, countedTable (columns.map String.toList) rows, none⟩

/-- The text on a screen that draws pieces one after the other. -/
def output (draw : Piece → Text) (o : Completion) : Text :=
  o.pieces.flatMap draw

end Completion

/-! ## Cells -/

/-- The cell of a truth value. -/
def truthCell (b : Bool) : Text :=
  if b then "True".toList else "False".toList

/-- The cells of an action. -/
def actionCells (row : ActionRow) : List Text :=
  [row.name, Text.ofInt row.line, Text.ofInt row.bodyStart,
    match row.bodyEnd with
    | some stop => Text.ofInt stop
    | none => "EOF".toList]

/-- The cells of a view. -/
def viewCells (view : ViewFile) : List Text :=
  [view.target.name, view.target.spelling.name, truthCell view.target.isPartial, view.path,
    truthCell view.isPresent]

/-- The style of a severity. -/
def severityStyle : Severity → Style
  | .error => .red
  | .warning => .yellow
  | .information => .cyan

/-- The cells of a diagnostic. -/
def diagnosticCells (row : DiagnosticRow) : List Text :=
  [Text.ofInt row.line, Text.ofInt row.column,
    (severityStyle row.severity).marked row.severity.name, row.code, row.message]

/-- A path with the remark whether it exists. -/
def stateLine (path : Text) (isPresent : Bool) : Text :=
  let state := if isPresent then Style.green.styled "exists".toList
    else Style.yellow.styled "missing".toList
  path ++ " (".toList ++ state ++ [')']

/-- A line with a title in front. -/
def titledLine (title : String) (text : Text) : Text :=
  Style.green.styled title.toList ++ ' ' :: text

/-- The lines of a controller and its action. -/
def matchLines (m : ControllerAction) : List Text :=
  [titledLine "Controller" m.file, titledLine "Action" (m.action.getD "(not found)".toList)]

/-! ## Running -/

/-- Why a command ends before it has anything to show. -/
inductive Stop where
  | settings (faults : List Fault)
  | misuse (m : Misuse)
deriving DecidableEq, Repr

/-- Goes on with the convention, if it could be loaded. -/
def loaded (conv : Checked Convention) : Except Stop Convention :=
  conv.mapError .settings

/-- The absolute path of an argument. Leading slashes count as one. -/
def absolute (fs : FileSystem) (path : Text) : Except Stop Text := do
  let path ← (takenPath path).mapError .misuse
  let whole := (Path.read fs.workingDirectory).append (Path.read path)
  return (Path.normalize ⟨.root, whole.segments⟩).print

/-- Shows an answer, or the failure in its place. -/
def showResult {α : Type} (result : Except Failure α) (showOk : α → Completion) : Completion :=
  match result with
  | .ok a => showOk a
  | .error f => .failure f

/-- Goes on with the text of a document, unless it cannot be read. -/
def withDocument (fs : FileSystem) (path : Text) (next : Text → Except Stop Completion) :
    Except Stop Completion :=
  match fs.readText path with
  | .ok text => next text
  | .error (.misuse m) => .error (.misuse m)
  | .error e => .ok (.failure (.unreadable path e.reason))

/-- The name that a command is about: the one given, or that of the literal at an offset in a
document. -/
def withName (fs : FileSystem) (kind : LiteralKind) (literalAt? : Text → Int → Option Literal)
    (given : Option Text) (file : Text) (offset : Option Int)
    (next : Text → Except Stop Completion) : Except Stop Completion :=
  match given, offset with
  | some name, _ => next name
  | none, none =>
    .ok (.misuse [Style.red.styled ("Pass a ".toList ++ kind.name ++ " or --offset.".toList)])
  | none, some offset => do
    withDocument fs (← absolute fs file) fun text =>
      match literalAt? text offset with
      | some l => next l.name
      | none => .ok (.failure (.nothingUnderCursor kind offset file))

/-- Runs a command. -/
def Command.run (conv : Checked Convention) (fs : FileSystem) : Command → Except Stop Completion
  | .actions file => do
    withDocument fs (← absolute fs file) fun text => do
      let conv ← loaded conv
      return .table 0 ["name", "line", "body_start", "body_end"]
        ((Action.catalog conv text).map fun a => actionCells (.ofAction a))
  | .views file action offset root =>
    match Selection.of action offset with
    | .error _ => .ok (.misuse [Style.red.styled "Pass --action or --offset.".toList])
    | .ok selection => do
      let path ← absolute fs file
      withDocument fs path fun text => do
        let root ← absolute fs root
        let conv ← loaded conv
        return showResult (View.ofAction conv fs root path text selection) fun views =>
          .table 0 ["view", "kind", "partial", "path", "exists"] (views.map viewCells)
  | .resolve name file isPartial root => do
    let conv ← loaded conv
    let root ← absolute fs root
    match ViewRoots.of? conv root (← absolute fs file) with
    | none => return .failure (.outsideDirectories file conv.controllersDir conv.viewsDir)
    | some roots =>
      return showResult (View.resolve conv fs roots root (.ofName name isPartial)) fun view =>
        .success [stateLine view.path view.isPresent]
  | .controller file root => do
    let file ← absolute fs file
    let conv ← loaded conv
    let root ← absolute fs root
    return showResult (Controller.ofView conv fs (some root) file) fun m => .success (matchLines m)
  | .route given file offset root =>
    withName fs .route Route.literalAt? given file offset fun route => do
      let file ← absolute fs file
      let conv ← loaded conv
      let root ← absolute fs root
      return showResult (Route.target conv fs root file route) fun m =>
        .success (titledLine "Route" route :: matchLines m)
  | .layout given file offset root =>
    withName fs .layout Layout.literalAt? given file offset fun name => do
      let file ← absolute fs file
      let conv ← loaded conv
      let root ← absolute fs root
      let row := Tool.findLayout conv fs root file name
      return .success [stateLine (Path.read row.path).print row.isPresent]
  | .check file root => do
    let path ← absolute fs file
    withDocument fs path fun text => do
      let conv ← loaded conv
      let root ← absolute fs root
      let rows := (Diagnostic.ofDocument conv fs root path text).map DiagnosticRow.ofDiagnostic
      if rows.isEmpty then return .success [Style.green.styled "No problems found.".toList]
      else
        return .table (if rows.any (·.severity == .error) then 1 else 0)
          ["line", "col", "severity", "code", "message"] (rows.map diagnosticCells)
  | .detect root => do
    let conv ← loaded conv
    let root ← absolute fs root
    if !Project.isProject conv fs root then
      return .showing 1
        [Style.yellow.styled (root ++ " does not look like a Yii project.".toList)]
    else
      let controllers ← (Project.controllers conv fs root).mapError .misuse
      let count ← (Project.countActions conv fs root).mapError .misuse
      return .success
        [ Style.green.styled "Yii project".toList ++ " at ".toList ++ root,
          "  Controllers: ".toList ++ Text.ofNat controllers.length,
          "  Actions:     ".toList ++ Text.ofNat count ]
  | .serve transport host port _ => do
    let _ ← loaded conv
    let address := if transport = "stdio".toList then none else some (host, port)
    return ⟨0, [], some ⟨transport, address⟩⟩

/-- Runs a command line, the name of the program left out. Of help and of a misuse that shows in the
arguments the reader of the command line tells by itself. -/
def run (conv : Checked Convention) (fs : FileSystem) (arguments : List Text) :
    Except Stop Completion :=
  match Command.read arguments with
  | .command c => c.run conv fs
  | .help => .ok (.success [])
  | .misused => .ok (.misuse [])

end CommandLine
end YiiNavigator
