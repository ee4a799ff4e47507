import YiiNavigator.FileSystem.Basic
import YiiNavigator.Text.Reader
import YiiNavigator.View.Alias

/-!
# Imports

An import names a class file or a directory by a path alias; a star at the end stands for all files
of a directory.
-/

namespace YiiNavigator
namespace Import

/-- A call that imports an alias, up to the end of the literal. -/
def callReader : Reader Text := do
  Reader.word "Yii".toList
  Reader.token "::".toList
  Reader.token "import".toList
  Reader.token "(".toList
  let _ ← Reader.blanks
  Reader.literal

/-- The imported aliases of a source text. -/
def literals (text : Text) : List Literal :=
  (callReader.occurrences text).map fun o => .atEnd o o.value

/-- The end of an alias that stands for all files of a directory. -/
def wildcard : Text := ".*".toList

/-- Whether an alias stands for all files of a directory. -/
def isWildcard (dotted : Text) : Bool :=
  wildcard.isSuffixOf dotted

/-- The path that an alias imports. A class file is expected unless only a directory of that name
exists. -/
def path? (conv : Convention) (fs : FileSystem) (root dotted : Text) : Option Text :=
  if isWildcard dotted then
    (Alias.resolve? conv root (dotted.take (dotted.length - wildcard.length))).map Path.canonical
  else
    (Alias.resolve? conv root dotted).map fun spelled =>
      let base := Path.canonical spelled
      let classFile := base ++ conv.viewExtension
      if !fs.has classFile && fs.has base then base else classFile

end Import
end YiiNavigator
