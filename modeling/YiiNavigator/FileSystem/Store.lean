import YiiNavigator.FileSystem.Basic

/-!
# A file system kept in memory

A store holds texts under paths in normal form, and the directories that exist. Every directory on
the way to a file or to a directory exists too.
-/

namespace YiiNavigator

/-- Texts under normalized paths, and normalized directories. -/
structure Store where
  files : List (Text × Text)
  directories : List Text
deriving DecidableEq, Repr

namespace Store

/-- The store without files and directories. -/
def empty : Store := ⟨[], []⟩

/-! ## Changing a store -/

/-- The directories on the way up from a path, itself first; its segments are given with the last
one first. The way up from a relative path ends before the path without segments. -/
def chainFrom (anchor : Anchor) : List Text → List Text
  | [] => if anchor = .relative then [] else [anchor.print]
  | name :: above => Path.print ⟨anchor, (name :: above).reverse⟩ :: chainFrom anchor above

/-- A directory and those above it, from the bottom to the top. The path without segments and
without anchor is `.`, and nothing is above it. -/
def chain (p : Path) : List Text :=
  if p = ⟨.relative, []⟩ then [p.print] else chainFrom p.anchor p.segments.reverse

/-- The store with a directory added, and with those above it up to the first one that it has
already. -/
def addDirectory (s : Store) (path : Text) : Store :=
  let missing := (chain (Path.read path).normalize).takeWhile fun d => !s.directories.elem d
  { s with directories := s.directories ++ missing }

/-- The store with a file added, and with its directory; the text under the same path, if any, is
replaced. -/
def addFile (s : Store) (path content : Text) : Store :=
  let key := Path.normalizeText path
  let others := s.files.filter fun file => !(file.1 == key)
  addDirectory { s with files := others ++ [(key, content)] } (Path.parentText key)

/-- The store with the given directories and then the given files. -/
def build (files : List (Text × Text)) (directories : List Text) : Store :=
  files.foldl (fun s file => s.addFile file.1 file.2) (directories.foldl addDirectory empty)

/-! ## Asking a store -/

/-- The text under a path. -/
def textAt? (s : Store) (path : Text) : Option Text :=
  s.files.lookup (Path.normalizeText path)

/-- Whether a path is a file or a directory of the store. -/
def has (s : Store) (path : Text) : Bool :=
  (s.textAt? path).isSome || s.directories.elem (Path.normalizeText path)

/-- The text of a file. -/
def readText (s : Store) (path : Text) : Except ReadError Text :=
  match s.textAt? path with
  | some content => .ok content
  | none => .error (.unreadable .unknownFile path)

/-- The files whose paths begin with a directory and end in a given text, sorted. -/
def filesBelow (s : Store) (directory ending : Text) : List Text :=
  let front := Text.trimEnd (Path.normalizeText directory) '/' ++ ['/']
  Text.sorted ((s.files.map (·.1)).filter fun path =>
    front.isPrefixOf path && ending.isSuffixOf path)

/-- The store as a file system. Its paths are not tied to any place, so that the working directory
comes from outside, and any character may be in them. -/
def fileSystem (s : Store) (workingDirectory : Text) : FileSystem where
  workingDirectory := workingDirectory
  has := s.has
  readText := s.readText
  filesBelow := fun directory ending => .ok (s.filesBelow directory ending)

end Store
end YiiNavigator
