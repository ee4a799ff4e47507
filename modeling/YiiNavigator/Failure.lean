import YiiNavigator.Text.Basic

/-!
# Failures of a search

Why a reference does not lead anywhere. Each failure has one of three kinds and one message.
-/

namespace YiiNavigator

/-- The kinds of failure. -/
inductive FailureKind where
  | outsideConvention
  | notFound
  | unresolvable
deriving DecidableEq, Repr

/-- The name of a kind. -/
def FailureKind.name : FailureKind → Text
  | outsideConvention => "not_in_convention_directory".toList
  | notFound => "resource_not_found".toList
  | unresolvable => "unresolvable_reference".toList

/-- What a cursor may be on. -/
inductive LiteralKind where
  | route
  | layout
deriving DecidableEq, Repr

/-- The name of a kind of literal. -/
def LiteralKind.name : LiteralKind → Text
  | route => "route".toList
  | layout => "layout".toList

/-- Why a search has no result. -/
inductive Failure where
  | emptyViewName
  | unknownAlias (view root : Text)
  | actionMissing (name : Text)
  | noActionAt (offset : Int)
  | outsideDirectories (file controllersDir viewsDir : Text)
  | neitherControllerNorView (file : Text)
  | outsideViews (viewsDir file : Text)
  | noControllerName (file : Text)
  | controllerMissing (className directory : Text)
  | routeTooShort (route : Text)
  | routeControllerMissing (route className : Text)
  | unreadable (file reason : Text)
  | nothingUnderCursor (kind : LiteralKind) (offset : Int) (file : Text)
deriving DecidableEq, Repr

namespace Failure

/-- The kind of a failure. -/
def kind : Failure → FailureKind
  | emptyViewName => .unresolvable
  | unknownAlias _ _ => .unresolvable
  | actionMissing _ => .notFound
  | noActionAt _ => .notFound
  | outsideDirectories _ _ _ => .outsideConvention
  | neitherControllerNorView _ => .outsideConvention
  | outsideViews _ _ => .outsideConvention
  | noControllerName _ => .outsideConvention
  | controllerMissing _ _ => .notFound
  | routeTooShort _ => .unresolvable
  | routeControllerMissing _ _ => .notFound
  | unreadable _ _ => .notFound
  | nothingUnderCursor _ _ _ => .notFound

/-- A failure in words. -/
def message : Failure → Text
  | emptyViewName => "View name is empty".toList
  | unknownAlias view root =>
    "Cannot resolve view '".toList ++ view ++ "': unknown alias root '".toList ++ root ++
      "'".toList
  | actionMissing name => "Action not found: ".toList ++ name
  | noActionAt offset => "No action found at offset ".toList ++ Text.ofInt offset
  | outsideDirectories file controllersDir viewsDir =>
    file ++ " is not inside a ".toList ++ controllersDir ++ " or ".toList ++ viewsDir ++
      " directory".toList
  | neitherControllerNorView file => file ++ " is not a controller or view file".toList
  | outsideViews viewsDir file =>
    "View file is not in a '".toList ++ viewsDir ++ "' directory: ".toList ++ file
  | noControllerName file =>
    "Controller name could not be determined from view path: ".toList ++ file
  | controllerMissing className directory =>
    "Controller not found: ".toList ++ className ++ " in ".toList ++ directory
  | routeTooShort route =>
    "Route needs a controller and an action: '".toList ++ route ++ "'".toList
  | routeControllerMissing route className =>
    "Controller not found for route '".toList ++ route ++ "': ".toList ++ className
  | unreadable file reason => "Cannot read ".toList ++ file ++ ": ".toList ++ reason
  | nothingUnderCursor kind offset file =>
    "No ".toList ++ kind.name ++ " literal at offset ".toList ++ Text.ofInt offset ++
      " in ".toList ++ file

end Failure

/-! ## Misuse -/

/-- A call that asks for nothing sensible. -/
inductive Misuse where
  /-- Neither the name of an action nor an offset selects one. -/
  | noSelection
  /-- A probe of a name that there is none of; the name is quoted. -/
  | unknownProbe (quoted : Text)
  /-- A segment is looked for in a path that does not have it. -/
  | absentSegment
  /-- A path holds the NUL character, which no operating system takes. -/
  | nulInPath
deriving DecidableEq, Repr

/-- A misuse in words. -/
def Misuse.message : Misuse → Text
  | noSelection => "Either action_name or offset must be provided.".toList
  | unknownProbe quoted => quoted ++ " is not a valid ProbePolicy".toList
  | absentSegment => "tuple.index(x): x not in tuple".toList
  | nulInPath => "embedded null byte".toList

end YiiNavigator
