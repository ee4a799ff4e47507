import YiiNavigator.Workspace

/-!
# Layouts

A layout is named by an assignment to the layout property of a controller. A name with two leading
slashes is taken from the application's views; any other is looked for among the layouts of the
module first.
-/

namespace YiiNavigator
namespace Layout

/-! ## Layouts in a source text -/

/-- The layout property, of the object at hand or in its declaration. -/
def propertyReader : Reader Unit :=
  Reader.orElse
    (do
      Reader.word "$this".toList
      Reader.token "->".toList
      Reader.token "layout".toList)
    (do
      Reader.orElse (Reader.word "public".toList)
        (Reader.orElse (Reader.word "protected".toList) (Reader.word "private".toList))
      let _ ← Reader.run1 Text.isBlank
      Reader.word "$layout".toList)

/-- An assignment of a literal to the layout property. -/
def assignmentReader : Reader Text := do
  propertyReader
  Reader.token "=".toList
  let _ ← Reader.blanks
  Reader.literal

/-- The layout literals of a source text. -/
def literals (text : Text) : List Literal :=
  (assignmentReader.occurrences text).map fun o => .atEnd o o.value

/-- The layout literal at an offset. -/
def literalAt? (text : Text) (offset : Int) : Option Literal :=
  (literals text).find? (·.covers offset)

/-! ## The file of a layout -/

/-- The directory of the layouts in a views directory. -/
def directoryName : Text := "layouts".toList

/-- The file of a layout in the layouts of a views directory. -/
def fileIn (conv : Convention) (views name : Text) : Text :=
  Path.canonical (Path.joinTexts views [directoryName, name ++ conv.viewExtension])

/-- The file of a layout as seen from a file. When neither the module nor the application has it,
it is expected in the module. -/
def file (conv : Convention) (fs : FileSystem) (root path name : Text) : Text :=
  let views := conv.viewsDirectory root none
  if "//".toList.isPrefixOf name then
    Path.canonical (Path.joinText views (name.drop 2 ++ conv.viewExtension))
  else
    let ofApplication := fileIn conv views name
    match (Place.of (some root) path).module? conv with
    | none => ofApplication
    | some module =>
      let ofModule := fileIn conv (conv.viewsDirectory root (some module)) name
      if fs.has ofModule then ofModule
      else if fs.has ofApplication then ofApplication
      else ofModule

end Layout
end YiiNavigator
