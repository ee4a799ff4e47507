import YiiNavigator.CommandLine.Run
import YiiNavigator.FileSystem.Store
import YiiNavigator.Proofs.Convention
import YiiNavigator.Proofs.Path.Clean

/-!
# Commands and tools agree

Seven questions can be asked of the tools of a server and of the command line. For absolute paths in
normal form with one slash in front, the command hands to the screen what the tool answers, and
where the tool answers with an error the command fails with one of the same kind. Nothing is said
about how a screen draws what it is handed.
-/

namespace YiiNavigator
namespace CommandLine

open YiiNavigator.Path

/-! ## Questions -/

/-- A question that a command and a tool answer. A route and a layout are named; the offset that a
command may be given as well is not looked at. -/
inductive Inquiry where
  | actions (file : Text)
  | views (file : Text) (action : Option Text) (offset : Option Int) (root : Text)
  | resolve (name file : Text) (isPartial : Bool) (root : Text)
  | controller (file root : Text)
  | route (target file : Text) (offset : Option Int) (root : Text)
  | layout (name file : Text) (offset : Option Int) (root : Text)
  | check (file root : Text)
deriving DecidableEq, Repr

namespace Inquiry

/-- The command that answers a question. -/
def command : Inquiry → Command
  | actions file => .actions file
  | views file action offset root => .views file action offset root
  | resolve name file isPartial root => .resolve name file isPartial root
  | controller file root => .controller file root
  | route target file offset root => .route (some target) file offset root
  | layout name file offset root => .layout (some name) file offset root
  | check file root => .check file root

/-- The request of a tool that answers a question. -/
def request : Inquiry → Tool.Request
  | actions file => .listActions file
  | views file action offset root => .findViews file action offset (some root)
  | resolve name file isPartial root => .resolveView name file isPartial (some root)
  | controller file root => .findController file (some root)
  | route target file _ root => .findRoute target file (some root)
  | layout name file _ root => .findLayout name file (some root)
  | check file root => .checkViewPaths file (some root)

/-- The paths in a question. -/
def paths : Inquiry → List Text
  | actions file => [file]
  | views file _ _ root => [file, root]
  | resolve _ file _ root => [file, root]
  | controller file root => [file, root]
  | route _ file _ root => [file, root]
  | layout _ file _ root => [file, root]
  | check file root => [file, root]

/-- Whether a question says enough: one for views selects an action. -/
def IsComplete : Inquiry → Prop
  | views _ action offset _ => action.isSome ∨ offset.isSome
  | _ => True

/-- The cell of a severity. -/
def severityCell : Severity → Text
  | .error => "[red]error[/]".toList
  | .warning => "[yellow]warning[/]".toList
  | .information => "[cyan]information[/]".toList

/-- The remark whether a file exists. -/
def stateRemark (isPresent : Bool) : Text :=
  (if isPresent then " ([green]exists[/green])" else " ([yellow]missing[/yellow])").toList

/-- The line of an error of a kind. -/
def errorLine (kind : FailureKind) (message : Text) : Text :=
  "[red]".toList ++ kind.name ++ "[/red]: ".toList ++ message

/-- Rows of cells under a header, with the number of rows in a line behind them. -/
def counted (header : List String) (rows : List (List Text)) : List Piece :=
  [.table (header.map String.toList) rows,
    .line ("(".toList ++ Text.ofNat rows.length ++ " rows)".toList)]

/-- What a command shows of the data of a tool, and the code that it ends with. No server is
started. -/
def shows (inquiry : Inquiry) : Tool.Answer → Completion
  | .actions rows => ⟨0, counted ["name", "line", "body_start", "body_end"]
      (rows.map fun row => [row.name, Text.ofInt row.line, Text.ofInt row.bodyStart,
        (row.bodyEnd.map Text.ofInt).getD "EOF".toList]), none⟩
  | .views rows => ⟨0, counted ["view", "kind", "partial", "path", "exists"]
      (rows.map fun row => [row.target.name, row.target.spelling.name,
        (if row.target.isPartial then "True" else "False").toList, row.path,
        (if row.isPresent then "True" else "False").toList]), none⟩
  | .view row => ⟨0, [.line (row.path ++ stateRemark row.isPresent)], none⟩
  | .layout row => ⟨0, [.line (row.path ++ stateRemark row.isPresent)], none⟩
  | .controller row => ⟨0, (match inquiry with
      | route target _ _ _ => [.line ("[green]Route[/green] ".toList ++ target)]
      | _ => []) ++ [.line ("[green]Controller[/green] ".toList ++ row.file),
        .line ("[green]Action[/green] ".toList ++ row.action.getD "(not found)".toList)], none⟩
  | .diagnostics [] => ⟨0, [.line "[green]No problems found.[/green]".toList], none⟩
  | .diagnostics rows => ⟨if ∃ row ∈ rows, row.severity = .error then 1 else 0,
      counted ["line", "col", "severity", "code", "message"]
        (rows.map fun row => [Text.ofInt row.line, Text.ofInt row.column,
          severityCell row.severity, row.code, row.message]), none⟩

/-- How what a command leaves behind goes with what a tool answers: the command shows the data,
fails with the kind of the tool's failure, or is misused where the tool is. -/
def Agrees (inquiry : Inquiry) (ran : Except Stop Completion) :
    Except Tool.Refusal Tool.Answer → Prop
  | .ok answer => ran = .ok (inquiry.shows answer)
  | .error (.failure f) => ∃ message, ran = .ok ⟨1, [.line (errorLine f.kind message)], none⟩
  | .error (.misuse m) => ran = .error (.misuse m)
  | .error .noSelection => False

/-- Whether a path is one that a command takes as it is: absolute, in normal form, with one slash in
front and without the NUL character. -/
structure IsSettledArgument (path : Text) : Prop where
  isAbsolute : IsAbsolute path
  one_slash : Anchor.read path = .root
  no_nul : hasNul path = false

variable {conv : Convention} {fs : FileSystem} {inquiry : Inquiry} {path serverRoot : Text}

/-! ## Parts that commands and tools share -/

/-- A path that is absolute and in normal form is taken as it is. -/
lemma IsSettledArgument.absolute_eq (h : IsSettledArgument path) (fs : FileSystem) :
    absolute fs path = .ok path := by
  -- nothing is taken from the working directory, and the slash that is put in front was there
  have hroot : (read path).anchor = .root := h.one_slash
  have hwhole : (read fs.workingDirectory).append (read path) = read path := by
    unfold Path.append
    rw [hroot]
  have hpath : (⟨.root, (read path).segments⟩ : Path) = read path := by
    rw [← hroot]
  have htaken : takenPath path = .ok path := by
    unfold takenPath
    rw [h.no_nul]
    rfl
  unfold absolute
  rw [htaken]
  show Except.ok
    (Path.normalize ⟨.root, ((read fs.workingDirectory).append (read path)).segments⟩).print = _
  rw [hwhole, hpath]
  exact congrArg _ h.isAbsolute.normal

lemma IsSettledArgument.rootOr_eq (h : IsSettledArgument path) :
    Tool.rootOr serverRoot (some path) = path := by
  obtain ⟨rest, rfl⟩ := List.isPrefixOf_iff_prefix.1 h.isAbsolute.absolute
  rfl

/-- A failure is shown in a line of its kind. -/
lemma failure_eq (f : Failure) :
    Completion.failure f = ⟨1, [.line (errorLine f.kind f.message)], none⟩ := by
  unfold Completion.failure errorLine
  rcases f.kind with - | - | -
  · rfl
  · rfl
  · rfl

/-- A failure has the same kind on both sides, and data are shown. -/
lemma agrees_showResult {α : Type} {result : Except Failure α} {answer : α → Tool.Answer}
    {showOk : α → Completion} (h : ∀ a, showOk a = inquiry.shows (answer a)) :
    inquiry.Agrees (.ok (showResult result showOk))
      ((result.map answer).mapError .failure) := by
  rcases result with f | a
  · exact ⟨f.message, congrArg _ (failure_eq f)⟩
  · exact congrArg _ (h a)

/-- A document is read alike on both sides. -/
lemma agrees_withDocument {next : Text → Except Stop Completion}
    {ask : Text → Except Tool.Refusal Tool.Answer}
    (h : ∀ text, inquiry.Agrees (next text) (ask text)) :
    inquiry.Agrees (withDocument fs path next) (Tool.document fs path >>= ask) := by
  unfold withDocument Tool.document
  rcases fs.readText path with e | text
  · rcases e with ⟨fault, file⟩ | m
    · exact ⟨_, congrArg _ (failure_eq _)⟩
    · exact rfl
  · exact h text

lemma map_bind_document {α β : Type} (f : α → β) (ask : Text → Except Tool.Refusal α) :
    (Tool.document fs path >>= ask).map f
      = Tool.document fs path >>= fun text => (ask text).map f := by
  rcases Tool.document fs path with e | text
  · rfl
  · rfl

lemma map_mapError_failure {α β : Type} (f : α → β) (result : Except Failure α) :
    (result.mapError Tool.Refusal.failure).map f
      = (result.map f).mapError Tool.Refusal.failure := by
  rcases result with e | a
  · rfl
  · rfl

lemma actionCells_eq (row : ActionRow) :
    actionCells row = [row.name, Text.ofInt row.line, Text.ofInt row.bodyStart,
      (row.bodyEnd.map Text.ofInt).getD "EOF".toList] := by
  unfold actionCells
  rcases row.bodyEnd with - | stop
  · rfl
  · rfl

lemma viewCells_eq (row : ViewFile) :
    viewCells row = [row.target.name, row.target.spelling.name,
      (if row.target.isPartial then "True" else "False").toList, row.path,
      (if row.isPresent then "True" else "False").toList] := by
  unfold viewCells truthCell
  rcases row.target.isPartial with - | -
  · rcases row.isPresent with - | -
    · rfl
    · rfl
  · rcases row.isPresent with - | -
    · rfl
    · rfl

lemma stateLine_eq (path : Text) (isPresent : Bool) :
    stateLine path isPresent = path ++ stateRemark isPresent := by
  unfold stateLine
  rcases isPresent with - | -
  · rw [List.append_assoc, List.append_assoc]
    rfl
  · rw [List.append_assoc, List.append_assoc]
    rfl

lemma diagnosticCells_eq (row : DiagnosticRow) :
    diagnosticCells row = [Text.ofInt row.line, Text.ofInt row.column, severityCell row.severity,
      row.code, row.message] := by
  unfold diagnosticCells
  rcases row.severity with - | - | -
  · rfl
  · rfl
  · rfl

/-! ## Each question -/

lemma agrees_actions {file : Text} (hfile : IsSettledArgument file) :
    (actions file).Agrees ((actions file).command.run (.ok conv) fs)
      (Tool.answer conv fs serverRoot (actions file).request) := by
  have hanswer : Tool.answer conv fs serverRoot (actions file).request
      = Tool.document fs file >>= fun text =>
        .ok (.actions ((Action.catalog conv text).map .ofAction)) :=
    map_bind_document _ _
  have hrun : (actions file).command.run (.ok conv) fs
      = withDocument fs file fun text => .ok (.table 0 ["name", "line", "body_start", "body_end"]
        ((Action.catalog conv text).map fun a => actionCells (.ofAction a))) := by
    simp only [command, Command.run, hfile.absolute_eq]
    rfl
  rw [hanswer, hrun]
  refine agrees_withDocument fun text => ?_
  simp only [Agrees, shows, List.map_map, Function.comp_def, actionCells_eq]
  rfl

lemma agrees_views {file root : Text} {action : Option Text} {offset : Option Int}
    (hfile : IsSettledArgument file) (hroot : IsSettledArgument root)
    (hcomplete : action.isSome ∨ offset.isSome) :
    (views file action offset root).Agrees
      ((views file action offset root).command.run (.ok conv) fs)
      (Tool.answer conv fs serverRoot (views file action offset root).request) := by
  -- a complete question stops neither of the two at the selection
  obtain ⟨selection, hselection⟩ : ∃ selection, Selection.of action offset = .ok selection := by
    rcases action with - | name
    · rcases offset with - | offset
      · simp at hcomplete
      · exact ⟨_, rfl⟩
    · exact ⟨_, rfl⟩
  have hanswer : Tool.answer conv fs serverRoot (views file action offset root).request
      = Tool.document fs file >>= fun text =>
        ((View.ofAction conv fs root file text selection).map Tool.Answer.views).mapError
          .failure := by
    show (Tool.findViews conv fs (Tool.rootOr serverRoot (some root)) file action offset).map _ = _
    rw [hroot.rootOr_eq]
    unfold Tool.findViews
    rw [hselection]
    refine (map_bind_document _ _).trans ?_
    simp only [map_mapError_failure]
  have hrun : (views file action offset root).command.run (.ok conv) fs
      = withDocument fs file fun text =>
        .ok (showResult (View.ofAction conv fs root file text selection) fun views =>
          .table 0 ["view", "kind", "partial", "path", "exists"] (views.map viewCells)) := by
    simp only [command, Command.run, hselection, hroot.absolute_eq, hfile.absolute_eq]
    rfl
  rw [hanswer, hrun]
  refine agrees_withDocument fun text => agrees_showResult fun rows => ?_
  rw [funext viewCells_eq]
  rfl

lemma agrees_resolve {name file root : Text} {isPartial : Bool} (hfile : IsSettledArgument file)
    (hroot : IsSettledArgument root) :
    (resolve name file isPartial root).Agrees
      ((resolve name file isPartial root).command.run (.ok conv) fs)
      (Tool.answer conv fs serverRoot (resolve name file isPartial root).request) := by
  have hanswer : Tool.answer conv fs serverRoot (resolve name file isPartial root).request
      = ((Tool.resolveView conv fs root file name isPartial).map Tool.Answer.view).mapError
        .failure := by
    show ((Tool.resolveView conv fs (Tool.rootOr serverRoot (some root)) file name isPartial).map
      _).mapError _ = _
    rw [hroot.rootOr_eq]
  rw [hanswer]
  unfold Tool.resolveView
  rcases hroots : ViewRoots.of? conv root file with - | roots
  · -- the two fail with texts of their own, which are of one kind
    have hrun : (resolve name file isPartial root).command.run (.ok conv) fs
        = .ok (.failure (.outsideDirectories file conv.controllersDir conv.viewsDir)) := by
      simp only [command, Command.run, loaded, Except.mapError, bind, Except.bind,
        hroot.absolute_eq, hfile.absolute_eq, hroots]
      rfl
    exact ⟨_, hrun.trans (congrArg _ (failure_eq _))⟩
  · have hrun : (resolve name file isPartial root).command.run (.ok conv) fs
        = .ok (showResult (View.resolve conv fs roots root (.ofName name isPartial)) fun view =>
          .success [stateLine view.path view.isPresent]) := by
      simp only [command, Command.run, loaded, Except.mapError, bind, Except.bind,
        hroot.absolute_eq, hfile.absolute_eq, hroots]
      rfl
    rw [hrun]
    exact agrees_showResult fun row => by rw [stateLine_eq]; rfl

lemma agrees_controller {file root : Text} (hfile : IsSettledArgument file)
    (hroot : IsSettledArgument root) :
    (controller file root).Agrees ((controller file root).command.run (.ok conv) fs)
      (Tool.answer conv fs serverRoot (controller file root).request) := by
  have hanswer : Tool.answer conv fs serverRoot (controller file root).request
      = ((Controller.ofView conv fs (some root) file).map Tool.Answer.controller).mapError
        .failure := by
    show ((Controller.ofView conv fs (some (Tool.rootOr serverRoot (some root))) file).map
      _).mapError _ = _
    rw [hroot.rootOr_eq]
  have hrun : (controller file root).command.run (.ok conv) fs
      = .ok (showResult (Controller.ofView conv fs (some root) file) fun m =>
        .success (matchLines m)) := by
    simp only [command, Command.run, hroot.absolute_eq, hfile.absolute_eq]
    rfl
  rw [hanswer, hrun]
  exact agrees_showResult fun row => rfl

lemma agrees_route {target file root : Text} {offset : Option Int}
    (hfile : IsSettledArgument file) (hroot : IsSettledArgument root) :
    (route target file offset root).Agrees
      ((route target file offset root).command.run (.ok conv) fs)
      (Tool.answer conv fs serverRoot (route target file offset root).request) := by
  have hanswer : Tool.answer conv fs serverRoot (route target file offset root).request
      = ((Route.target conv fs root file target).map Tool.Answer.controller).mapError
        .failure := by
    show ((Route.target conv fs (Tool.rootOr serverRoot (some root)) file target).map
      _).mapError _ = _
    rw [hroot.rootOr_eq]
  have hrun : (route target file offset root).command.run (.ok conv) fs
      = .ok (showResult (Route.target conv fs root file target) fun m =>
        .success (titledLine "Route" target :: matchLines m)) := by
    simp only [command, Command.run, withName, hroot.absolute_eq, hfile.absolute_eq]
    rfl
  rw [hanswer, hrun]
  exact agrees_showResult fun row => rfl

/-- The file of a layout is given in normal form. -/
lemma print_read_layoutFile (conv : Convention) (fs : FileSystem) (root file name : Text) :
    (Path.read (Layout.file conv fs root file name)).print
      = Layout.file conv fs root file name := by
  have hcanonical : ∀ text : Text, (Path.read (canonical text)).print = canonical text := by
    intro text
    unfold canonical
    rw [read_normalizeText]
    rfl
  unfold Layout.file Layout.fileIn
  dsimp only
  split
  · exact hcanonical _
  · split
    · exact hcanonical _
    · split
      · exact hcanonical _
      · split
        · exact hcanonical _
        · exact hcanonical _

lemma agrees_layout {name file root : Text} {offset : Option Int}
    (hfile : IsSettledArgument file) (hroot : IsSettledArgument root) :
    (layout name file offset root).Agrees
      ((layout name file offset root).command.run (.ok conv) fs)
      (Tool.answer conv fs serverRoot (layout name file offset root).request) := by
  have hanswer : Tool.answer conv fs serverRoot (layout name file offset root).request
      = .ok (.layout (Tool.findLayout conv fs root file name)) := by
    show Except.ok (Tool.Answer.layout
      (Tool.findLayout conv fs (Tool.rootOr serverRoot (some root)) file name)) = _
    rw [hroot.rootOr_eq]
  have hrun : (layout name file offset root).command.run (.ok conv) fs
      = .ok (.success [stateLine (Path.read (Layout.file conv fs root file name)).print
        (fs.has (Layout.file conv fs root file name))]) := by
    simp only [command, Command.run, withName, hroot.absolute_eq, hfile.absolute_eq]
    rfl
  rw [hanswer, hrun, print_read_layoutFile, stateLine_eq]
  rfl

lemma agrees_check {file root : Text} (hfile : IsSettledArgument file)
    (hroot : IsSettledArgument root) :
    (check file root).Agrees ((check file root).command.run (.ok conv) fs)
      (Tool.answer conv fs serverRoot (check file root).request) := by
  have hanswer : Tool.answer conv fs serverRoot (check file root).request
      = Tool.document fs file >>= fun text => .ok (.diagnostics
        ((Diagnostic.ofDocument conv fs root file text).map .ofDiagnostic)) := by
    show (Tool.checkViewPaths conv fs (Tool.rootOr serverRoot (some root)) file).map _ = _
    rw [hroot.rootOr_eq]
    exact map_bind_document _ _
  have hrun : (check file root).command.run (.ok conv) fs
      = withDocument fs file fun text =>
        let rows := (Diagnostic.ofDocument conv fs root file text).map DiagnosticRow.ofDiagnostic
        if rows.isEmpty then .ok (.success [Style.green.styled "No problems found.".toList])
        else .ok (.table (if rows.any (·.severity == .error) then 1 else 0)
          ["line", "col", "severity", "code", "message"] (rows.map diagnosticCells)) := by
    simp only [command, Command.run, hroot.absolute_eq, hfile.absolute_eq]
    rfl
  rw [hanswer, hrun]
  refine agrees_withDocument fun text => ?_
  dsimp only
  rcases (Diagnostic.ofDocument conv fs root file text).map DiagnosticRow.ofDiagnostic
    with - | ⟨row, rows⟩
  · rfl
  · -- the code of the command is computed, and the one that is asked for a proposition
    have hcode : (if (row :: rows).any (·.severity == .error) then 1 else 0)
        = if ∃ r ∈ row :: rows, r.severity = .error then 1 else 0 := by
      simp only [List.any_eq_true, beq_iff_eq]
    rw [if_neg (by simp), hcode, funext diagnosticCells_eq]
    rfl

/-- Whatever is asked, the command and the tool agree. -/
lemma agrees (conv : Convention) (fs : FileSystem) (serverRoot : Text)
    (hpaths : ∀ path ∈ inquiry.paths, IsSettledArgument path) (hcomplete : inquiry.IsComplete) :
    inquiry.Agrees (inquiry.command.run (.ok conv) fs)
      (Tool.answer conv fs serverRoot inquiry.request) := by
  have hfirst : ∀ {file root : Text}, (∀ path ∈ [file, root], IsSettledArgument path) →
      IsSettledArgument file ∧ IsSettledArgument root := fun h =>
    ⟨h _ List.mem_cons_self, h _ (List.mem_cons_of_mem _ List.mem_cons_self)⟩
  cases inquiry with
  | actions file => exact agrees_actions (hpaths file List.mem_cons_self)
  | views file action offset root =>
    exact agrees_views (hfirst hpaths).1 (hfirst hpaths).2 hcomplete
  | resolve name file isPartial root => exact agrees_resolve (hfirst hpaths).1 (hfirst hpaths).2
  | controller file root => exact agrees_controller (hfirst hpaths).1 (hfirst hpaths).2
  | route target file offset root => exact agrees_route (hfirst hpaths).1 (hfirst hpaths).2
  | layout name file offset root => exact agrees_layout (hfirst hpaths).1 (hfirst hpaths).2
  | check file root => exact agrees_check (hfirst hpaths).1 (hfirst hpaths).2

end Inquiry

/-! ## Errors -/

/-- Whether a command prints an error of a kind and ends with code 1. -/
def PrintsError (ran : Except Stop Completion) (kind : FailureKind) : Prop :=
  ∃ message, ran = .ok ⟨1, [.line (Inquiry.errorLine kind message)], none⟩

/-- Whether a tool returns an error text of a kind. A misuse is no text that is returned. -/
def ReturnsError (answered : Except Tool.Refusal Tool.Answer) (kind : FailureKind) : Prop :=
  ∃ refusal, answered = .error refusal ∧ (∀ m, refusal ≠ .misuse m)
    ∧ "Error: ".toList ++ (kind.name ++ ": ".toList) <+: refusal.message

/-- Whether the data of a tool hold an error. -/
def HasErrorRow (answer : Tool.Answer) : Prop :=
  ∃ rows, answer = .diagnostics rows ∧ ∃ row ∈ rows, row.severity = .error

/-- The first letter of the name of a kind. -/
def initial : FailureKind → Char
  | .outsideConvention => 'n'
  | .notFound => 'r'
  | .unresolvable => 'u'

lemma name_eq_cons (kind : FailureKind) : kind.name = initial kind :: kind.name.tail := by
  cases kind <;> rfl

lemma eq_of_initial_eq {kind kind' : FailureKind} (h : initial kind = initial kind') :
    kind = kind' := by
  cases kind <;> cases kind' <;> first | rfl | exact absurd h (by decide)

/-- An error that is shown is of one kind only. -/
lemma printsError_showing_iff {kind kind' : FailureKind} {message : Text} :
    PrintsError (.ok ⟨1, [.line (Inquiry.errorLine kind message)], none⟩) kind'
      ↔ kind' = kind := by
  constructor
  · rintro ⟨message', heq⟩
    -- behind the mark in front stand the letters of the kinds
    have hpieces := congrArg Completion.pieces (Except.ok.inj heq)
    have hline : Inquiry.errorLine kind message = Inquiry.errorLine kind' message' :=
      Piece.line.inj (List.cons.inj hpieces).1
    unfold Inquiry.errorLine at hline
    simp only [List.append_assoc] at hline
    have hnames := List.append_cancel_left hline
    rw [name_eq_cons kind, name_eq_cons kind'] at hnames
    exact eq_of_initial_eq (List.cons.inj hnames).1.symm
  · rintro rfl
    exact ⟨message, rfl⟩

lemma message_failure (f : Failure) :
    (Tool.Refusal.failure f).message
      = "Error: ".toList ++ (f.kind.name ++ (": ".toList ++ f.message)) := by
  show "Error: ".toList ++ f.kind.name ++ ": ".toList ++ f.message = _
  rw [List.append_assoc, List.append_assoc]

/-- The error text of a failure is of its kind only. -/
lemma returnsError_failure_iff {f : Failure} {kind : FailureKind} :
    ReturnsError (.error (.failure f)) kind ↔ kind = f.kind := by
  constructor
  · rintro ⟨refusal, hrefusal, -, rest, hprefix⟩
    obtain rfl : Tool.Refusal.failure f = refusal := Except.error.inj hrefusal
    rw [message_failure, List.append_assoc, List.append_assoc] at hprefix
    have hnames := List.append_cancel_left hprefix
    rw [name_eq_cons kind, name_eq_cons f.kind] at hnames
    exact eq_of_initial_eq (List.cons.inj hnames).1
  · rintro rfl
    refine ⟨.failure f, rfl, nofun, f.message, ?_⟩
    rw [message_failure, List.append_assoc, List.append_assoc]

namespace Inquiry

variable {inquiry : Inquiry} {conv : Convention} {fs : FileSystem} {serverRoot : Text}

/-- What is shown of data is no error of any kind. -/
lemma shows_ne_error (answer : Tool.Answer) (kind : FailureKind) (message : Text) :
    inquiry.shows answer ≠ ⟨1, [.line (errorLine kind message)], none⟩ := by
  intro heq
  have hcode := congrArg Completion.exitCode heq
  rcases answer with rows | rows | row | row | row | rows
  · cases hcode
  · cases hcode
  · cases hcode
  · cases hcode
  · cases hcode
  · rcases rows with - | ⟨row, rows⟩
    · cases hcode
    · -- only a table ends with the same code, and it is no line
      cases congrArg Completion.pieces heq

/-- A command that shows data ends with code 1 if they hold an error, and else with code 0. -/
lemma exitCode_shows (answer : Tool.Answer) :
    (HasErrorRow answer → (inquiry.shows answer).exitCode = 1)
      ∧ (¬HasErrorRow answer → (inquiry.shows answer).exitCode = 0) := by
  constructor
  · rintro ⟨rows, rfl, row, hrow, hseverity⟩
    rcases rows with - | ⟨first, rest⟩
    · cases hrow
    · exact if_pos ⟨row, hrow, hseverity⟩
  · intro hnone
    rcases answer with rows | rows | row | row | row | rows
    · rfl
    · rfl
    · rfl
    · rfl
    · rfl
    · rcases rows with - | ⟨first, rest⟩
      · rfl
      · exact if_neg fun hrow => hnone ⟨_, rfl, hrow⟩

/-- An agreeing command prints an error of the kinds that the tool returns an error text of, and of
no others. -/
lemma Agrees.printsError_iff {ran : Except Stop Completion}
    {answered : Except Tool.Refusal Tool.Answer} (h : inquiry.Agrees ran answered)
    (kind : FailureKind) : PrintsError ran kind ↔ ReturnsError answered kind := by
  rcases answered with refusal | answer
  · rcases refusal with - | f | m
    · exact absurd h id
    · obtain ⟨message, rfl⟩ := h
      rw [printsError_showing_iff, returnsError_failure_iff]
    · rw [show ran = .error (.misuse m) from h]
      constructor
      · rintro ⟨message, heq⟩
        cases heq
      · rintro ⟨refusal, hrefusal, hmisuse, -⟩
        cases hrefusal
        exact absurd rfl (hmisuse m)
  · rw [show ran = .ok (inquiry.shows answer) from h]
    constructor
    · rintro ⟨message, heq⟩
      exact absurd (Except.ok.inj heq) (shows_ne_error answer kind message)
    · rintro ⟨refusal, hrefusal, -⟩
      cases hrefusal

/-- What it means that a command and a tool give the same answer to a question. The command prints
an error of a kind and ends with code 1 exactly when the tool returns an error text of that kind.
Otherwise it shows what the tool answers, and ends with code 1 if that holds an error and with code
0 if not, or both are misused alike. -/
def IsAnsweredAlike (inquiry : Inquiry) (ran : Except Stop Completion)
    (answered : Except Tool.Refusal Tool.Answer) : Prop :=
  (∀ kind, PrintsError ran kind ↔ ReturnsError answered kind)
    ∧ ((¬∃ kind, ReturnsError answered kind) →
      (∃ answer, answered = .ok answer ∧ ran = .ok (inquiry.shows answer)
          ∧ (HasErrorRow answer → (inquiry.shows answer).exitCode = 1)
          ∧ (¬HasErrorRow answer → (inquiry.shows answer).exitCode = 0))
        ∨ ∃ m, answered = .error (.misuse m) ∧ ran = .error (.misuse m))

/-- **The command line and the tools agree.** They give the same answers about absolute paths in
normal form, with one slash in front and without the NUL character, whatever the files are. -/
theorem command_agrees_request (conv : Convention) (fs : FileSystem) (serverRoot : Text)
    (hpaths : ∀ path ∈ inquiry.paths, IsSettledArgument path) (hcomplete : inquiry.IsComplete) :
    inquiry.IsAnsweredAlike (inquiry.command.run (.ok conv) fs)
      (Tool.answer conv fs serverRoot inquiry.request) := by
  have hagrees := agrees conv fs serverRoot hpaths hcomplete
  refine ⟨hagrees.printsError_iff, fun hnone => ?_⟩
  rcases hanswered : Tool.answer conv fs serverRoot inquiry.request with refusal | answer
  · rw [hanswered] at hagrees hnone
    rcases refusal with - | f | m
    · exact absurd hagrees id
    · exact absurd ⟨f.kind, returnsError_failure_iff.2 rfl⟩ hnone
    · exact .inr ⟨m, rfl, hagrees⟩
  · rw [hanswered] at hagrees
    exact .inl ⟨answer, rfl, hagrees, exitCode_shows answer⟩

/-- The views of an action are shown as the tool lists them. -/
theorem command_agrees_request_views :
    let text := "<?php\nfunction actionIndex() \x7b\n $this->renderPartial(\"item\");\n\x7d".toList
    let file := "/w/protected/controllers/CartController.php".toList
    let store := Store.build [(file, text)] []
    let inquiry := Inquiry.views file (some "actionIndex".toList) none "/w".toList
    let row : ViewFile :=
      ⟨.ofName "item".toList true, "/w/protected/views/cart/_item.php".toList, false⟩
    let fs := store.fileSystem ['/']
    Tool.answer .stock fs "/".toList inquiry.request = .ok (.views [row])
      ∧ inquiry.command.run (.ok .stock) fs = .ok (inquiry.shows (.views [row])) := by
  intro text file store inquiry row fs
  have hfile : IsSettledArgument file :=
    ⟨⟨by decide, by decide +kernel⟩, by decide +kernel, by decide +kernel⟩
  have hroot : IsSettledArgument "/w".toList :=
    ⟨⟨by decide, by decide +kernel⟩, by decide +kernel, by decide +kernel⟩
  have hpaths : ∀ path ∈ inquiry.paths, IsSettledArgument path :=
    List.forall_mem_cons.2 ⟨hfile, List.forall_mem_singleton.2 hroot⟩
  have hanswered : Tool.answer .stock fs "/".toList inquiry.request = .ok (.views [row]) := by
    decide +kernel
  obtain ⟨-, halike⟩ := command_agrees_request .stock fs "/".toList hpaths (.inl rfl)
  rw [hanswered] at halike
  have hnone : ¬∃ kind, ReturnsError (.ok (.views [row])) kind := by
    rintro ⟨kind, refusal, hrefusal, -⟩
    cases hrefusal
  rcases halike hnone with ⟨answer, hanswer, hran, -⟩ | ⟨m, hm, -⟩
  · cases hanswer
    exact ⟨hanswered, hran⟩
  · cases hm

/-- Of two slashes in front, which a path in normal form may have, a command drops one and a tool
does not; and a path with the NUL character, which a tool need not ask the files about, breaks a
command off. -/
theorem command_differs_request :
    let layout := Inquiry.layout "column2".toList
      "//ws/protected/controllers/PostController.php".toList none "//ws".toList
    let controller := Inquiry.controller "/ws/a\x00b.php".toList "/ws".toList
    let fs := Store.empty.fileSystem ['/']
    (∀ path ∈ layout.paths, IsAbsolute path)
      ∧ ¬layout.IsAnsweredAlike (layout.command.run (.ok .stock) fs)
        (Tool.answer .stock fs "/".toList layout.request)
      ∧ (∀ path ∈ controller.paths, IsAbsolute path)
      ∧ ¬controller.IsAnsweredAlike (controller.command.run (.ok .stock) fs)
        (Tool.answer .stock fs "/".toList controller.request) := by
  intro layout controller fs
  have hlayout : Tool.answer .stock fs "/".toList layout.request
      = .ok (.layout ⟨"//ws/protected/views/layouts/column2.php".toList, false⟩) := by
    decide +kernel
  have hlayoutRan : layout.command.run (.ok .stock) fs
      = .ok ⟨0, [.line "/ws/protected/views/layouts/column2.php ([yellow]missing[/yellow])".toList],
        none⟩ := by
    decide +kernel
  have hcontroller : Tool.answer .stock fs "/".toList controller.request
      = .error (.failure (.outsideViews "views".toList "/ws/a\x00b.php".toList)) := by
    decide +kernel
  have hcontrollerRan : controller.command.run (.ok .stock) fs = .error (.misuse .nulInPath) := by
    decide +kernel
  refine ⟨?_, fun halike => ?_, ?_, fun halike => ?_⟩
  · exact List.forall_mem_cons.2 ⟨⟨by decide, by decide +kernel⟩,
      List.forall_mem_singleton.2 ⟨by decide, by decide +kernel⟩⟩
  · -- both succeed, but the command shows one slash less
    rw [hlayout, hlayoutRan] at halike
    have hnone : ¬∃ kind, ReturnsError (.ok
        (.layout ⟨"//ws/protected/views/layouts/column2.php".toList, false⟩)) kind := by
      rintro ⟨kind, refusal, hrefusal, -⟩
      cases hrefusal
    rcases halike.2 hnone with ⟨answer, hanswer, hran, -⟩ | ⟨m, hm, -⟩
    · cases hanswer
      revert hran
      decide +kernel
    · cases hm
  · exact List.forall_mem_cons.2 ⟨⟨by decide, by decide +kernel⟩,
      List.forall_mem_singleton.2 ⟨by decide, by decide +kernel⟩⟩
  · -- the tool has an error text, and the command prints none
    rw [hcontroller, hcontrollerRan] at halike
    obtain ⟨message, hran⟩ := (halike.1 .outsideConvention).2 (returnsError_failure_iff.2 rfl)
    cases hran

end Inquiry
end CommandLine
end YiiNavigator
