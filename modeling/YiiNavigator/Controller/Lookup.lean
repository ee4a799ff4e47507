import YiiNavigator.Controller.Naming
import YiiNavigator.View.OfAction

/-!
# From a view to its controller and action

A view file lies in a directory named after a controller. The controller is looked for beside the
views, and its action is one that renders the view or else one that is named like it.
-/

namespace YiiNavigator

/-- A controller file, and the action in it if one is found. -/
structure ControllerAction where
  file : Text
  action : Option Text
deriving DecidableEq, Repr

namespace Controller

/-! ## Controller files -/

/-- The two spellings of the file of a controller id in a directory. -/
def candidates (conv : Convention) (directory id : Text) : List Text :=
  [Naming.className id, Naming.lowerClassName id].map fun name =>
    Path.joinText directory (name ++ conv.controllerEnding)

/-- The file of a controller id in a directory. -/
def file? (conv : Convention) (fs : FileSystem) (directory id : Text) : Option Text :=
  (candidates conv directory id).find? fs.has

/-! ## Actions of a view -/

/-- Whether the body of an action renders a view of a given name, underscore or not. -/
def renders (text view : Text) (action : Action) : Bool :=
  (action.renderCalls text).any fun call =>
    call.target.name == view || call.target.name == '_' :: view

/-- The name of the first action that renders a view, or else of the first named like it. -/
def actionForView? (conv : Convention) (text view : Text) : Option Text :=
  let actions := Action.catalog conv text
  let found := (actions.find? (renders text view)).or
    (actions.find? fun action => Naming.matchesView conv action.name view)
  found.map (·.name)

/-- The match of a controller file and the action that `pick` finds in its text. A file that
cannot be read has no action. -/
def matchIn (fs : FileSystem) (file : Text) (pick : Text → Option Text) : ControllerAction :=
  match fs.readText file with
  | .ok text => ⟨file, pick text⟩
  | .error _ => ⟨file, none⟩

/-- The directory that the controller of a view is looked for in. With a root it is that of the
application or of the module. Without one it lies beside the last views directory, or in the
directory of the module. -/
def directoryOfView (conv : Convention) (root : Option Text) (place : Place) (index : Nat) : Text :=
  let guessed : Text :=
    let owner := place.inside.take index
    let base := match place.module? conv with
      | none => owner
      | some module => match Place.lastIndex? module owner with
        | none => owner
        | some i => owner.take (i + 1)
    Path.canonical (Path.joinAll (base ++ [conv.controllersDir]))
  match root with
  | none => guessed
  | some [] => guessed
  | some root => conv.controllersDirectory root (place.module? conv)

/-- The controller and the action that a view file belongs to. -/
def ofView (conv : Convention) (fs : FileSystem) (root : Option Text) (path : Text) :
    Except Failure ControllerAction :=
  let place := Place.of root path
  match place.lastDirectory? conv.viewsDir with
  | none => .error (.outsideViews conv.viewsDir path)
  | some index => match (place.inside.drop (index + 1)).dropLast with
    | [] => .error (.noControllerName path)
    | id :: _ =>
      let directory := directoryOfView conv root place index
      match file? conv fs directory id with
      | none => .error (.controllerMissing (Naming.className id ++ conv.controllerSuffix) directory)
      | some file =>
        let name := Path.stemOf (place.inside.getLast?.getD [])
        let view := if ['_'].isPrefixOf name then name.drop 1 else name
        .ok (matchIn fs file fun text => actionForView? conv text view)

end Controller
end YiiNavigator
