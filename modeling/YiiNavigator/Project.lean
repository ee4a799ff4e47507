import YiiNavigator.Action.Catalog
import YiiNavigator.FileSystem.Basic
import YiiNavigator.Workspace

/-!
# Projects and their files

What makes a directory a project, what makes a file a controller or a view, and the controllers of
a whole project.
-/

namespace YiiNavigator
namespace Project

/-! ## Kinds of files -/

/-- Whether a path is that of a controller: by its name, or by a controllers directory above it. -/
def isController (conv : Convention) (root : Option Text) (path : Text) : Bool :=
  conv.viewExtension.isSuffixOf path &&
    (conv.controllerSuffix.isSuffixOf (Path.stemOf path) ||
      (Place.of root path).inside.dropLast.elem conv.controllersDir)

/-- Whether a path is that of a view: by a views directory above it. -/
def isView (conv : Convention) (root : Option Text) (path : Text) : Bool :=
  conv.viewExtension.isSuffixOf path && (Place.of root path).inside.dropLast.elem conv.viewsDir

/-! ## Projects -/

/-- Whether the entry script of a directory loads the framework. -/
def entersFramework (fs : FileSystem) (root : Text) : Bool :=
  let script := Path.joinText root "index.php".toList
  fs.has script && match fs.readText script with
    | .ok text => Text.contains text "Yii".toList || Text.contains text "framework".toList
    | .error _ => false

/-- Whether a directory is a project: it holds the framework, or a protected directory together
with an entry script, a main configuration or controllers. -/
def isProject (conv : Convention) (fs : FileSystem) (root : Text) : Bool :=
  let protectedDir := Path.joinText root conv.protectedDir
  fs.has (Path.joinTexts root [conv.frameworkDir, "Yii.php".toList]) ||
    (fs.has protectedDir &&
      (entersFramework fs root ||
        fs.has (Path.joinTexts protectedDir ["config".toList, "main.php".toList]) ||
        fs.has (Path.joinText protectedDir conv.controllersDir)))

/-! ## Controllers of a project -/

/-- The modules that hold controllers, in the order of their names. -/
def modules (conv : Convention) (fs : FileSystem) (root : Text) : Except Misuse (List Text) := do
  let directory := Path.joinTexts root [conv.protectedDir, conv.modulesDir]
  let first (file : Text) : Option Text :=
    (Path.read (Path.relativeText fs.workingDirectory directory file)).parts.head?
  let files ← fs.filesBelow directory conv.controllerEnding
  return Text.sorted (files.filterMap first).eraseDups

/-- The controller files of the application and then of its modules. -/
def controllers (conv : Convention) (fs : FileSystem) (root : Text) :
    Except Misuse (List Text) := do
  let modules ← modules conv fs root
  let lists ← (none :: modules.map some).mapM fun module =>
    fs.filesBelow (conv.controllersDirectory root module) conv.controllerEnding
  return lists.flatten

/-- The actions of a file; one that cannot be read has none. -/
def actionsIn (conv : Convention) (fs : FileSystem) (file : Text) : List Action :=
  match fs.readText file with
  | .ok text => Action.catalog conv text
  | .error _ => []

/-- The number of actions in the controllers of a project. -/
def countActions (conv : Convention) (fs : FileSystem) (root : Text) : Except Misuse Nat := do
  let files ← controllers conv fs root
  return (files.flatMap (actionsIn conv fs)).length

end Project
end YiiNavigator
