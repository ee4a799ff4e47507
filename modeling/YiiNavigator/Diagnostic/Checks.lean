import YiiNavigator.Diagnostic.Basic
import YiiNavigator.Import
import YiiNavigator.Project
import YiiNavigator.Controller.Naming
import YiiNavigator.View.OfAction

/-!
# Checks of a document

Three checks look at the literals of a document: the view names of its render calls, the aliases of
its imports, and the keys of its delegated actions. `Diagnostic.ofDocument` runs those that apply
and puts what they find in text order.
-/

namespace YiiNavigator
namespace Diagnostic

/-! ## Views -/

/-- The path with the underscore before its last part removed, or added when there is none. -/
def toggleUnderscore (path : Text) : Text :=
  let (directory, name) := Path.splitLast path
  Path.joinText directory (if ['_'].isPrefixOf name then name.drop 1 else '_' :: name)

/-- What is wrong with the view of a target. -/
def viewProblem? (conv : Convention) (fs : FileSystem) (roots : ViewRoots) (root : Text)
    (target : RenderTarget) : Option Problem :=
  match View.resolve conv fs roots root target with
  | .error _ => some (.viewUnresolved target.name target.isPartial)
  | .ok view =>
    if view.isPresent then none
    else
      let alternative := toggleUnderscore view.path
      let shown (path : Text) := Path.relativeText fs.workingDirectory root path
      if fs.has alternative then some (.viewElsewhere (shown alternative) target.isPartial)
      else if target.isPartial then some (.partMissing (shown view.path) (shown alternative))
      else some (.viewMissing (shown view.path))

/-- The render calls of a document that are checked: all of a view file, and those in the bodies
of the actions of a controller. -/
def checkedCalls (conv : Convention) (root path text : Text) : List RenderCall :=
  if Project.isView conv (some root) path then RenderCall.all text 0
  else (Action.catalog conv text).flatMap (·.renderCalls text)

/-- The diagnostics of the view names of a document. A document that is neither a view file nor a
controller has none. -/
def ofViews (conv : Convention) (fs : FileSystem) (root path text : Text) : List Diagnostic :=
  match ViewRoots.of? conv root path with
  | none => []
  | some roots => (checkedCalls conv root path text).filterMap fun call =>
      (viewProblem? conv fs roots root call.target).map
        (ofName text call.nameOffset call.target.name)

/-! ## Imports -/

/-- Whether an alias leads to a file or a directory. -/
def importExists (conv : Convention) (fs : FileSystem) (root dotted : Text) : Bool :=
  match Import.path? conv fs root dotted with
  | some path => fs.has path
  | none => false

/-- The diagnostics of the imports of a document: first those that lead nowhere, then those of
aliases imported several times. -/
def ofImports (conv : Convention) (fs : FileSystem) (root text : Text) : List Diagnostic :=
  let imports := Import.literals text
  let missing := imports.filter fun l => !importExists conv fs root l.name
  let times (dotted : Text) := imports.countP (·.name == dotted)
  let repeated := imports.filter fun l => decide (1 < times l.name)
  missing.map (fun l => ofName text l.offset l.name (.importMissing l.name)) ++
    repeated.map fun l => ofName text l.offset l.name (.importRepeated l.name (times l.name))

/-! ## Delegated actions -/

/-- The diagnostics of the delegated actions of a document that have no method. -/
def ofActionMap (conv : Convention) (text : Text) : List Diagnostic :=
  let declared := (Action.catalog conv text).map fun action => Text.lower action.name
  let missing := (Action.mapKeys text).filter fun key =>
    !declared.elem (Text.lower (Naming.methodName conv key.name))
  missing.map fun key =>
    ofName text key.offset key.name (.methodMissing (Naming.methodName conv key.name))

/-! ## Documents -/

/-- The diagnostics of a document in text order. Those of one place keep the order of the
checks. -/
def ofDocument (conv : Convention) (fs : FileSystem) (root path text : Text) : List Diagnostic :=
  let delegated :=
    if Project.isController conv (some root) path then ofActionMap conv text else []
  (ofViews conv fs root path text ++ ofImports conv fs root text ++ delegated).mergeSort precedes

end Diagnostic
end YiiNavigator
