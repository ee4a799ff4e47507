import YiiNavigator.Convention

/-!
# Path aliases

A path alias is a dotted name. Its first part names a root: the application, the framework or the
widget library of the framework. The other parts are directories below it. Aliases into the views
of the application or of a module go through the views directory of the convention.
-/

namespace YiiNavigator
namespace Alias

/-- The parts of an alias; empty ones do not count. -/
def parts (dotted : Text) : List Text :=
  (dotted.splitOn '.').filter fun part => !part.isEmpty

/-- The path of the parts that follow the application root. -/
def inApplication (conv : Convention) (root : Text) (rest : List Text) : Text :=
  let general := Path.joinTexts (Path.joinText root conv.protectedDir) rest
  match rest with
  | [] => general
  | first :: below =>
    if first = conv.viewsDir then Path.joinTexts (conv.viewsDirectory root none) below
    else match below with
      | module :: views :: inside =>
        if first = conv.modulesDir ∧ views = conv.viewsDir then
          Path.joinTexts (conv.viewsDirectory root (some module)) inside
        else general
      | _ => general

/-- The path that an alias denotes, without an extension. There is none for an unknown root. -/
def resolve? (conv : Convention) (root : Text) (dotted : Text) : Option Text :=
  match parts dotted with
  | [] => none
  | first :: rest =>
    if first = "application".toList then some (inApplication conv root rest)
    else if first = "zii".toList then
      some (Path.joinTexts root (conv.frameworkDir :: "zii".toList :: rest))
    else if first = "system".toList then some (Path.joinTexts root (conv.frameworkDir :: rest))
    else none

end Alias
end YiiNavigator
