import YiiNavigator.Convention

/-!
# The stock convention

The convention of an application that keeps to the stock layout, at which general statements are
tried.
-/

namespace YiiNavigator
namespace Convention

/-- The stock layout of an application. -/
def stock : Convention where
  protectedDir := "protected".toList
  viewsDir := "views".toList
  controllersDir := "controllers".toList
  modulesDir := "modules".toList
  frameworkDir := "framework".toList
  viewExtension := ".php".toList
  controllerSuffix := "Controller".toList
  actionPrefix := "action".toList
  protectedDir_ne := by decide
  viewsDir_ne := by decide
  controllersDir_ne := by decide
  modulesDir_ne := by decide
  frameworkDir_ne := by decide
  viewExtension_valid := by decide
  controllerSuffix_ne := by decide
  actionPrefix_ne := by decide

end Convention
end YiiNavigator
