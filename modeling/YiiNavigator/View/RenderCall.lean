import YiiNavigator.Text.Reader

/-!
# Calls that render views

A view is named by a literal in a render call. The spelling of the name decides how it is resolved:
two leading slashes, one leading slash, a leading `./` or `../`, a dot somewhere, or none of these.
-/

namespace YiiNavigator

/-- How a view name is spelled, which decides how it is resolved. -/
inductive ViewSpelling where
  | rootAbsolute
  | absolute
  | relative
  | dotted
  | bare
deriving DecidableEq, Repr

/-- The name of a spelling. -/
def ViewSpelling.name : ViewSpelling → Text
  | rootAbsolute => "root_absolute".toList
  | absolute => "absolute".toList
  | relative => "relative".toList
  | dotted => "dot_notation".toList
  | bare => "bare".toList

/-- The spelling of a view name. -/
def ViewSpelling.ofName (name : Text) : ViewSpelling :=
  if "//".toList.isPrefixOf name then rootAbsolute
  else if "/".toList.isPrefixOf name then absolute
  else if "./".toList.isPrefixOf name || "../".toList.isPrefixOf name then relative
  else if name.elem '.' then dotted
  else bare

/-- A view name as it is written, and whether it is rendered as part of another view. -/
structure RenderTarget where
  name : Text
  spelling : ViewSpelling
  isPartial : Bool
deriving DecidableEq, Repr

/-- What a call with a given name renders. -/
def RenderTarget.ofName (name : Text) (isPartial : Bool) : RenderTarget :=
  ⟨name, .ofName name, isPartial⟩

/-- A call that renders a view: its offset and the offset of the view name. -/
structure RenderCall where
  target : RenderTarget
  offset : Int
  nameOffset : Int
deriving DecidableEq, Repr

namespace RenderCall

/-- The arrow or the double colon before the name of a method. -/
def accessReader : Reader Unit :=
  Reader.orElse (Reader.word "->".toList) (Reader.word "::".toList)

/-- A call of `render` or `renderPartial` up to the end of the literal view name; the value tells
whether it is a partial and the name. -/
def reader : Reader (Bool × Text) := do
  accessReader
  Reader.token "render".toList
  let isPartial ← Reader.optional "Partial".toList
  Reader.token "(".toList
  let _ ← Reader.blanks
  let name ← Reader.literal
  return (isPartial, name)

/-- The call of an occurrence in a text that begins at `base`. -/
def ofOccurrence (base : Int) (o : Occurrence (Bool × Text)) : RenderCall :=
  let name := o.value.2
  ⟨.ofName name o.value.1, base + o.start, base + (Literal.atEnd o name).offset⟩

/-- The calls that render a view with a literal name, in a text that begins at `base`. -/
def all (text : Text) (base : Int) : List RenderCall :=
  (reader.occurrences text).map (ofOccurrence base)

end RenderCall
end YiiNavigator
