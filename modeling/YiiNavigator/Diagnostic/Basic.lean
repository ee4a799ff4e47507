import YiiNavigator.Text.Position

/-!
# Diagnostics

A diagnostic says what is wrong with a literal of a source text, and where the literal is. Its
code, severity and message follow from the problem.
-/

namespace YiiNavigator

/-- How bad a problem is. -/
inductive Severity where
  | error
  | warning
  | information
deriving DecidableEq, Repr

/-- The name of a severity. -/
def Severity.name : Severity → Text
  | error => "error".toList
  | warning => "warning".toList
  | information => "information".toList

/-- What may be wrong with a literal. Paths are relative to the workspace root. -/
inductive Problem where
  /-- A view name leads to no file. -/
  | viewUnresolved (name : Text) (isPartial : Bool)
  /-- A view exists with, or without, an underscore more. -/
  | viewElsewhere (path : Text) (isPartial : Bool)
  /-- A view does not exist. -/
  | viewMissing (path : Text)
  /-- A partial view exists under neither of two names. -/
  | partMissing (path alternative : Text)
  /-- An import leads to no file or directory. -/
  | importMissing (dotted : Text)
  /-- An alias is imported several times. -/
  | importRepeated (dotted : Text) (times : Nat)
  /-- A delegated action has no method. -/
  | methodMissing (method : Text)
deriving DecidableEq, Repr

namespace Problem

/-- The code of a problem. -/
def code : Problem → Text
  | viewUnresolved _ _ => "view-path-unresolved".toList
  | viewElsewhere _ _ => "view-alternative-path".toList
  | viewMissing _ => "view-file-missing".toList
  | partMissing _ _ => "view-file-missing".toList
  | importMissing _ => "import-not-found".toList
  | importRepeated _ _ => "import-duplicate".toList
  | methodMissing _ => "action-method-missing".toList

/-- The severity of a problem. -/
def severity : Problem → Severity
  | viewUnresolved _ _ => .warning
  | viewElsewhere _ _ => .information
  | viewMissing _ => .error
  | partMissing _ _ => .error
  | importMissing _ => .error
  | importRepeated _ _ => .warning
  | methodMissing _ => .warning

/-- The remark that a view is a partial. -/
def partialNote (isPartial : Bool) : Text :=
  if isPartial then " (partial)".toList else []

/-- A problem in words. -/
def message : Problem → Text
  | viewUnresolved name isPartial =>
    "Cannot resolve view path: \"".toList ++ name ++ "\"".toList ++ partialNote isPartial ++
      ". Check path format.".toList
  | viewElsewhere path isPartial => "View exists at: ".toList ++ path ++ partialNote isPartial
  | viewMissing path => "View file does not exist: ".toList ++ path
  | partMissing path alternative =>
    "View file does not exist. Checked paths: ".toList ++ path ++ ", ".toList ++ alternative
  | importMissing dotted => "Import path not found: ".toList ++ dotted
  | importRepeated dotted times =>
    "Duplicate import: ".toList ++ dotted ++ " (found ".toList ++ Text.ofNat times ++
      " times)".toList
  | methodMissing method =>
    "Action method \"".toList ++ method ++ "\" not found. Expected method: function ".toList ++
      method ++ "()".toList

end Problem

/-- A problem with the part of a source text from `start` up to `stop`. -/
structure Diagnostic where
  problem : Problem
  start : Position
  stop : Position
deriving DecidableEq, Repr

namespace Diagnostic

/-- The diagnostic of a name in a text. -/
def ofName (text : Text) (offset : Int) (name : Text) (problem : Problem) : Diagnostic :=
  ⟨problem, text.positionAt offset, text.positionAt (offset + name.length)⟩

/-- Text order by the start; diagnostics with one start are not told apart. -/
def precedes (a b : Diagnostic) : Bool :=
  a.start.precedes b.start

end Diagnostic
end YiiNavigator
