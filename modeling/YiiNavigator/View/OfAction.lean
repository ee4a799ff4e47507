import YiiNavigator.Action.Catalog
import YiiNavigator.Workspace

/-!
# The views of an action

The views that an action renders, each once, in the order of the first call that renders it.
-/

namespace YiiNavigator

/-- How an action of a source text is picked. -/
inductive Selection where
  | named (name : Text)
  | cursor (offset : Int)
deriving DecidableEq, Repr

namespace Selection

/-- The selection by a name or else by an offset. -/
def of (name : Option Text) (offset : Option Int) : Except Misuse Selection :=
  match name, offset with
  | some name, _ => .ok (named name)
  | none, some offset => .ok (cursor offset)
  | none, none => .error .noSelection

/-- The action that is picked. -/
def pick (conv : Convention) (text : Text) : Selection → Except Failure Action
  | named name => match Action.named? conv text name with
    | some action => .ok action
    | none => .error (.actionMissing name)
  | cursor offset => match Action.at? conv text offset with
    | some action => .ok action
    | none => .error (.noActionAt offset)

end Selection

/-- The calls in the body of an action that render a view. -/
def Action.renderCalls (action : Action) (text : Text) : List RenderCall :=
  RenderCall.all (action.body text) action.bodyStart

namespace View

/-- The views without those whose path an earlier one has. -/
def distinctFrom (seen : List Text) : List ViewFile → List ViewFile
  | [] => []
  | view :: rest =>
    if seen.elem view.path then distinctFrom seen rest
    else view :: distinctFrom (view.path :: seen) rest

/-- The views that an action renders. Calls that cannot be resolved are left out. -/
def ofAction (conv : Convention) (fs : FileSystem) (root path text : Text)
    (selection : Selection) : Except Failure (List ViewFile) := do
  let action ← selection.pick conv text
  match ViewRoots.of? conv root path with
  | none => .error (.outsideDirectories path conv.controllersDir conv.viewsDir)
  | some roots =>
    let views := (action.renderCalls text).filterMap fun call =>
      (resolve conv fs roots root call.target).toOption
    return distinctFrom [] views

end View
end YiiNavigator
