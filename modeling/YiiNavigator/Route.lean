import YiiNavigator.Controller.Lookup

/-!
# Routes

A route names a controller and an action, and a module before them when a module directory of that
name exists. What follows the action is not looked at.
-/

namespace YiiNavigator
namespace Route

/-! ## Routes in a source text -/

/-- A call that creates a URL up to the end of the route literal. The literal may be the first
element of an array. -/
def callReader : Reader Text := do
  RenderCall.accessReader
  Reader.token "create".toList
  let _ ← Reader.optional "Absolute".toList
  Reader.word "Url".toList
  Reader.token "(".toList
  let _ ← Reader.blanks
  let spelledOut ← Reader.optional "array".toList
  if spelledOut then
    Reader.token "(".toList
  else
    let _ ← Reader.optional "[".toList
  let _ ← Reader.blanks
  Reader.literal

/-- The route literals of a source text. -/
def literals (text : Text) : List Literal :=
  (callReader.occurrences text).map fun o => .atEnd o o.value

/-- The route literal at an offset. -/
def literalAt? (text : Text) (offset : Int) : Option Literal :=
  (literals text).find? (·.covers offset)

/-! ## The target of a route -/

/-- The segments of a route; empty ones do not count. -/
def segments (route : Text) : List Text :=
  (route.splitOn '/').filter fun segment => !segment.isEmpty

/-- What the leading segments of a route ask for: a controller id, an action id, and the
directories to look in, in order. -/
structure Query where
  controller : Text
  action : Text
  directories : List Text
deriving DecidableEq, Repr

/-- The controllers directories that a file sees: that of its module, if it has one, and that of
the application. -/
def directoriesFor (conv : Convention) (root path : Text) : List Text :=
  let application := conv.controllersDirectory root none
  match (Place.of (some root) path).module? conv with
  | none => [application]
  | some module => [conv.controllersDirectory root (some module), application]

/-- What a route asks for as seen from a file. -/
def query? (conv : Convention) (fs : FileSystem) (root path : Text) : List Text → Option Query
  | first :: second :: third :: _ =>
    if fs.has (Path.joinTexts root [conv.protectedDir, conv.modulesDir, first]) then
      some ⟨second, third, [conv.controllersDirectory root (some first)]⟩
    else some ⟨first, second, directoriesFor conv root path⟩
  | [first, second] => some ⟨first, second, directoriesFor conv root path⟩
  | _ => none

/-- The name of the action of an id, letters compared without their case. -/
def actionNamed? (conv : Convention) (text id : Text) : Option Text :=
  let wanted := Text.lower (Naming.methodName conv id)
  ((Action.catalog conv text).find? fun action => Text.lower action.name == wanted).map (·.name)

/-- The controller and the action behind a route as seen from a file. -/
def target (conv : Convention) (fs : FileSystem) (root path route : Text) :
    Except Failure ControllerAction :=
  match query? conv fs root path (segments route) with
  | none => .error (.routeTooShort route)
  | some q =>
    let search (directory : Text) := Controller.file? conv fs directory q.controller
    match q.directories.findSome? search with
    | none => .error (.routeControllerMissing route
        (Naming.className q.controller ++ conv.controllerSuffix))
    | some file => .ok (Controller.matchIn fs file fun text => actionNamed? conv text q.action)

end Route
end YiiNavigator
