import YiiNavigator.Failure
import YiiNavigator.FileSystem.Basic
import YiiNavigator.View.Alias
import YiiNavigator.View.RenderCall

/-!
# From a view name to a file

The spelling of a view name chooses the directory it is taken from; the path is put in normal form,
and a probe turns it into the path of a file.
-/

namespace YiiNavigator

/-- How a path without an extension becomes the path of a file. -/
inductive Probe where
  /-- The extension is added, whatever files there are. -/
  | expectedPath
  /-- The name with an underscore before it is preferred, then the name as it is, whichever
  exists; when neither does, the underscore stays. -/
  | preferExisting
deriving DecidableEq, Repr

namespace Probe

/-- The name of a probe. -/
def name : Probe → Text
  | expectedPath => "expected_path".toList
  | preferExisting => "prefer_existing".toList

/-- The probe of a given name. -/
def ofName (name : Text) : Except Misuse Probe :=
  if name = expectedPath.name then .ok expectedPath
  else if name = preferExisting.name then .ok preferExisting
  else .error (.unknownProbe (Text.quoted name))

/-- The probe of a view that is rendered in full or as a part. -/
def ofPartial (isPartial : Bool) : Probe :=
  if isPartial then preferExisting else expectedPath

end Probe

/-- Where the views of a file are looked for: the directory of its own views, that of the
application and, in a module, that of the module. -/
structure ViewRoots where
  own : Text
  application : Text
  ofModule : Option Text
deriving DecidableEq, Repr

/-- What a call renders with the file it leads to, and whether that file exists. -/
structure ViewFile where
  target : RenderTarget
  path : Text
  isPresent : Bool
deriving DecidableEq, Repr

namespace View

/-- The name with an underscore before it, unless there is one. -/
def underscored (name : Text) : Text :=
  if ['_'].isPrefixOf name then name else '_' :: name

/-- The file that a probe finds for a path without an extension. -/
def probe (fs : FileSystem) (extension : Text) (policy : Probe) (target : Text) : Text :=
  match policy with
  | .expectedPath => target ++ extension
  | .preferExisting =>
    let (directory, name) := Path.splitLast target
    let marked := Path.joinText directory (underscored name ++ extension)
    let plain := Path.joinText directory (name ++ extension)
    if fs.has marked then marked
    else if fs.has plain then plain
    else marked

/-- The path that a view name denotes, as it is spelled. -/
def spelled? (conv : Convention) (roots : ViewRoots) (root name : Text) : Option Text :=
  match ViewSpelling.ofName name with
  | .rootAbsolute => some (roots.application ++ name)
  | .absolute => some (roots.ofModule.getD roots.application ++ name)
  | .dotted => Alias.resolve? conv root name
  | .relative => some (Path.joinText roots.own name)
  | .bare => some (Path.joinText roots.own name)

/-- The file of a view name, by a given probe. There is none for the empty name and for an alias of
an unknown root. -/
def file? (conv : Convention) (fs : FileSystem) (roots : ViewRoots) (root name : Text)
    (policy : Probe) : Option Text :=
  if name.isEmpty then none
  else (spelled? conv roots root name).map fun path =>
    probe fs conv.viewExtension policy (Path.canonical path)

/-- The file of what a call renders. -/
def resolve (conv : Convention) (fs : FileSystem) (roots : ViewRoots) (root : Text)
    (target : RenderTarget) : Except Failure ViewFile :=
  if target.name.isEmpty then .error .emptyViewName
  else match file? conv fs roots root target.name (.ofPartial target.isPartial) with
    | some path => .ok ⟨target, path, fs.has path⟩
    | none => .error (.unknownAlias target.name (target.name.takeWhile (· ≠ '.')))

end View
end YiiNavigator
