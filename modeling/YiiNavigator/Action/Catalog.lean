import YiiNavigator.Action.Basic
import YiiNavigator.Convention
import YiiNavigator.Source.Body
import YiiNavigator.Source.ArrayKeys

/-!
# The actions of a controller

`Action.catalog` lists the methods of a source text that are actions by their names: the action
prefix followed by an ASCII capital. `Action.mapKeys` lists the actions that a controller delegates
by the array that its `actions` method returns.
-/

namespace YiiNavigator
namespace Action

/-! ## Declared actions -/

/-- The name of an action: the prefix, a capital, and the name characters that follow. -/
def nameReader (actionPrefix : Text) : Reader Text := do
  Reader.word actionPrefix
  let capital ← Reader.one Text.isCapital
  let rest ← Reader.run Text.isNameChar
  return actionPrefix ++ capital :: rest

/-- The header of an action up to its opening parenthesis. -/
def headerReader (actionPrefix : Text) : Reader Text := do
  Reader.word "function".toList
  Reader.spaced do
    let name ← nameReader actionPrefix
    Reader.token "(".toList
    return name

/-- The record of the action whose header is given. Without a body it starts and ends just after
the header. -/
def ofHeader (text : Text) (header : Occurrence Text) : Action :=
  let build (bodyStart : Nat) (bodyEnd : Option Int) : Action :=
    ⟨header.value, header.start, bodyStart, bodyEnd, text.positionAt header.start⟩
  match Body.find text header.stop with
  | .absent => build header.stop (some header.stop)
  | .unclosed start => build start none
  | .closed start stop => build start (some stop)

/-- The actions that a source text declares, in the order of their declarations. -/
def catalog (conv : Convention) (text : Text) : List Action :=
  ((headerReader conv.actionPrefix).occurrences text).map (ofHeader text)

/-- The first action whose body covers an offset. -/
def at? (conv : Convention) (text : Text) (offset : Int) : Option Action :=
  (catalog conv text).find? (·.covers offset)

/-- The first action of a given name. -/
def named? (conv : Convention) (text : Text) (name : Text) : Option Action :=
  (catalog conv text).find? (·.name == name)

/-! ## Delegated actions -/

/-- The header of the method that returns the delegated actions. -/
def mapHeaderReader : Reader Unit := do
  Reader.keyword "function".toList
  let _ ← Reader.run1 Text.isBlank
  Reader.keyword "actions".toList
  Reader.token "(".toList

/-- The start of an array that is returned. -/
def returnedArrayReader : Reader Unit := do
  Reader.keyword "return".toList
  let _ ← Reader.run1 Text.isBlank
  Reader.orElse (Reader.word "[".toList) do
    Reader.keyword "array".toList
    Reader.token "(".toList

/-- The keys of the array that the `actions` method of a source text returns. There are none
unless the method has a whole body. -/
def mapKeys (text : Text) : List Literal :=
  match mapHeaderReader.firstFrom? 0 text with
  | none => []
  | some header => match Body.find text header.stop with
    | .closed start stop =>
      match returnedArrayReader.firstFrom? start ((text.take stop).drop start) with
      | none => []
      | some opening => Source.arrayKeys text opening.stop stop
    | _ => []

end Action
end YiiNavigator
