import YiiNavigator.Path.Basic
import YiiNavigator.Text.WordLike

/-!
# Conventions of a project

Where a project keeps its files and how it names them. A valid convention has no empty part, and
its file extension is a dot followed by word characters.
-/

namespace YiiNavigator

/-- Whether a text is a file extension: a dot and at least one word character. -/
def isExtension : Text → Bool
  | '.' :: name => !name.isEmpty && name.all Text.isWordLike
  | _ => false

/-- The directory and naming conventions of a project. -/
structure Convention where
  protectedDir : Text
  viewsDir : Text
  controllersDir : Text
  modulesDir : Text
  frameworkDir : Text
  viewExtension : Text
  controllerSuffix : Text
  actionPrefix : Text
  protectedDir_ne : protectedDir ≠ []
  viewsDir_ne : viewsDir ≠ []
  controllersDir_ne : controllersDir ≠ []
  modulesDir_ne : modulesDir ≠ []
  frameworkDir_ne : frameworkDir ≠ []
  viewExtension_valid : isExtension viewExtension = true
  controllerSuffix_ne : controllerSuffix ≠ []
  actionPrefix_ne : actionPrefix ≠ []

namespace Convention

/-! ## Directories -/

/-- The directory of that name of the application or, when one is given, of a module. -/
def directory (conv : Convention) (name : Text) (root : Text) (module : Option Text) : Text :=
  let owner := match module with
    | none => []
    | some [] => []
    | some m => [conv.modulesDir, m]
  (Path.ofTexts (root :: conv.protectedDir :: owner ++ [name])).print

/-- The views directory of the application or of a module. -/
def viewsDirectory (conv : Convention) (root : Text) (module : Option Text) : Text :=
  conv.directory conv.viewsDir root module

/-- The controllers directory of the application or of a module. -/
def controllersDirectory (conv : Convention) (root : Text) (module : Option Text) : Text :=
  conv.directory conv.controllersDir root module

/-- The end of the file names of controllers. -/
def controllerEnding (conv : Convention) : Text :=
  conv.controllerSuffix ++ conv.viewExtension

end Convention
end YiiNavigator
