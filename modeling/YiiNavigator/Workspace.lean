import YiiNavigator.View.Resolution

/-!
# Places in a workspace

What the path of a file says by itself: its segments below the workspace root, the module it
belongs to, and the directories that its views are looked for in.
-/

namespace YiiNavigator

/-- The parts of a path: those of the workspace root, none when the path is not below it, and
the others. -/
structure Place where
  above : List Text
  inside : List Text
deriving DecidableEq, Repr

namespace Place

/-- The place of a path. The empty root is no root. -/
def of (root : Option Text) (path : Text) : Place :=
  let p := Path.read (Path.canonical path)
  match root with
  | none => ⟨[], p.parts⟩
  | some [] => ⟨[], p.parts⟩
  | some root =>
    let r := Path.read (Path.canonical root)
    if r.anchor = p.anchor ∧ r.segments.isPrefixOf p.segments then
      ⟨r.parts, p.segments.drop r.segments.length⟩
    else ⟨[], p.parts⟩

/-- The index of the last place where a name stands. -/
def lastIndex? (name : Text) : List Text → Option Nat
  | [] => none
  | part :: rest => match lastIndex? name rest with
    | some i => some (i + 1)
    | none => if part = name then some 0 else none

/-- The index of a name among the directories of a place, the last one if there are several. -/
def lastDirectory? (place : Place) (name : Text) : Option Nat :=
  lastIndex? name place.inside.dropLast

/-- The module in the last run of a protected directory, the modules directory and a name with
something below it. -/
def lastModule? (conv : Convention) : List Text → Option Text
  | [] => none
  | part :: rest => match lastModule? conv rest with
    | some module => some module
    | none => match rest with
      | modules :: module :: _ :: _ =>
        if part = conv.protectedDir ∧ modules = conv.modulesDir then some module else none
      | _ => none

/-- The module that a place belongs to. -/
def module? (conv : Convention) (place : Place) : Option Text :=
  lastModule? conv place.inside

end Place

namespace ViewRoots

/-- The directory of the views of a view file: the first directory below the last views
directory, or the views directory itself for a file directly in it. -/
def ofViewFile (place : Place) (index : Nat) : Text :=
  let own := if index + 2 < place.inside.length then (place.inside.drop (index + 1)).take 1 else []
  Path.joinAll (place.above ++ place.inside.take (index + 1) ++ own)

/-- The directory of the views of a controller: beside the controllers directory, below the
directories that the controller is in, and named after it. -/
def ofController? (conv : Convention) (place : Place) (index : Nat) : Option Text :=
  let name := Path.stemOf (place.inside.getLast?.getD [])
  if !conv.controllerSuffix.isSuffixOf name || name == conv.controllerSuffix then none
  else
    let id := Text.lowerFirst (name.take (name.length - conv.controllerSuffix.length))
    let viewsRoot := Path.joinAll (place.above ++ place.inside.take index ++ [conv.viewsDir])
    some (Path.joinTexts viewsRoot ((place.inside.drop (index + 1)).dropLast ++ [id]))

/-- The directories that the views of a file are looked for in. Only view files and controllers
have them. -/
def of? (conv : Convention) (root path : Text) : Option ViewRoots :=
  let place := Place.of (some root) path
  let module := place.module? conv
  let build (own : Text) : ViewRoots :=
    ⟨own, conv.viewsDirectory root none,
      module.map fun m => conv.viewsDirectory root (some m)⟩
  match place.lastDirectory? conv.viewsDir with
  | some index => some (build (ofViewFile place index))
  | none => match place.lastDirectory? conv.controllersDir with
    | some index => (ofController? conv place index).map build
    | none => none

end ViewRoots
end YiiNavigator
