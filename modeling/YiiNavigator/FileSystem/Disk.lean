import YiiNavigator.FileSystem.Basic
import YiiNavigator.Text.Utf8

/-!
# A tree of files and directories

A disk is a tree of directories with files of bytes at its leaves. Paths are followed one segment
at a time, so `..` after a segment that does not exist leads nowhere. A link to nothing is listed
among the files but does not exist. A path that is too long leads nowhere either, whatever it names,
and one with a NUL character is refused.
-/

namespace YiiNavigator

mutual

/-- What a name in a directory stands for. -/
inductive Node where
  | file (bytes : List UInt8)
  | brokenLink
  | directory (entries : Entries)

/-- The names of a directory with what they stand for. -/
inductive Entries where
  | nil
  | cons (name : Text) (node : Node) (rest : Entries)

end

/-! ## Building -/

namespace Entries

/-- The node under a name. -/
def find? (name : Text) : Entries → Option Node
  | nil => none
  | cons other node rest => if other = name then some node else rest.find? name

/-- The entries with a node put under a name, in place of the one that is there. -/
def insert (name : Text) (node : Node) : Entries → Entries
  | nil => cons name node nil
  | cons other old rest =>
    if other = name then cons name node rest else cons other old (rest.insert name node)

end Entries

namespace Node

/-- The entries of a directory; nothing else has any. -/
def entries : Node → Entries
  | directory entries => entries
  | _ => .nil

/-- Whether a node is a directory. -/
def isDirectory : Node → Bool
  | directory _ => true
  | _ => false

/-- The node with `change` applied at the end of a path, directories being made on the way. -/
def alter (change : Option Node → Node) : List Text → Option Node → Node
  | [], node => change node
  | name :: rest, node =>
    let entries := (node.map Node.entries).getD .nil
    directory (entries.insert name (alter change rest (entries.find? name)))

/-- What is there, or else an empty directory. -/
def orDirectory (node : Option Node) : Node :=
  node.getD (directory .nil)

end Node

/-! ## Lengths -/

/-- The number of bytes that spell a text. -/
def byteLength (text : Text) : Nat :=
  (Text.encodeUtf8 text).length

/-- The bytes of the longest name in a directory. -/
def longestName : Nat := 255

/-- The bytes of the longest path that can be asked for. -/
def longestPath : Nat := 4095

/-! ## Listing -/

/-- The names in a directory, with a given ending, that are not directories. -/
def Entries.fileNames (ending : Text) : Entries → List Text
  | nil => []
  | cons name node rest =>
    if !node.isDirectory && ending.isSuffixOf name then name :: rest.fileNames ending
    else rest.fileNames ending

mutual

/-- The files below a node whose names have a given ending, `path` being the spelling of the node's
own path. The files of a directory come first, and then those of its subdirectories name by
name. A directory whose path is too long is passed over. -/
def Node.listing (ending path : Text) : Node → List Text
  | .directory entries =>
    if longestPath < byteLength path then []
    else (Text.sorted (entries.fileNames ending)).map (Path.joinText path) ++
      ((entries.listings ending path).mergeSort fun a b => Text.precedes a.1 b.1).flatMap (·.2)
  | _ => []

/-- The subdirectories among the entries of a directory, each with the files below it. -/
def Entries.listings (ending path : Text) : Entries → List (Text × List Text)
  | .nil => []
  | .cons name node rest =>
    if node.isDirectory then
      (name, node.listing ending (Path.joinText path name)) :: rest.listings ending path
    else rest.listings ending path

end

/-! ## Following a path -/

/-- The fault of a name that a directory does not hold. -/
def missingName (name : Text) : ReadFault :=
  if longestName < byteLength name then .nameTooLong else .noEntry

/-- The node that segments lead to from a node, `above` being the directories on the way to it,
the nearest first. At the root, `..` stays there. -/
def Node.follow : List Text → (above : List Node) → Node → Except ReadFault Node
  | [], _, .brokenLink => .error .noEntry
  | [], _, node => .ok node
  | _ :: _, _, .brokenLink => .error .noEntry
  | _ :: _, _, .file _ => .error .notDirectory
  | segment :: rest, above, .directory entries =>
    if segment = Path.up then
      match above with
      | [] => follow rest [] (.directory entries)
      | parent :: above => follow rest above parent
    else match entries.find? segment with
      | none => .error (missingName segment)
      | some node => follow rest (.directory entries :: above) node

/-- A tree of files, and the directory that relative paths are taken from. -/
structure Disk where
  root : Node
  workingDirectory : Text

namespace Disk

/-- The segments that lead to a path from the root. -/
def route (d : Disk) (path : Text) : List Text :=
  ((Path.read d.workingDirectory).append (Path.read path)).segments

/-- The disk with `change` applied at a path. -/
def alter (d : Disk) (path : Text) (change : Option Node → Node) : Disk :=
  { d with root := Node.alter change (d.route path) (some d.root) }

/-- The disk with nothing but its working directory. -/
def empty (workingDirectory : Text) : Disk :=
  alter ⟨.directory .nil, workingDirectory⟩ [] Node.orDirectory

/-- The disk with a directory at a path, unless there is something already. -/
def addDirectory (d : Disk) (path : Text) : Disk :=
  d.alter path Node.orDirectory

/-- The disk with a file at a path. -/
def addFile (d : Disk) (path : Text) (bytes : List UInt8) : Disk :=
  d.alter path fun _ => .file bytes

/-- The disk with a link to nothing at a path. -/
def addBrokenLink (d : Disk) (path : Text) : Disk :=
  d.alter path fun _ => .brokenLink

/-! ## Asking a disk -/

/-- The node at a path. The length that counts is that of the path without its needless parts. -/
def find (d : Disk) (path : Text) : Except ReadFault Node :=
  if longestPath < byteLength (Path.read path).print then .error .nameTooLong
  else Node.follow (d.route path) [] d.root

/-- Whether a path leads to a file or a directory. -/
def has (d : Disk) (path : Text) : Bool :=
  !hasNul path && (d.find path).isOk

/-- The text of a file, its line ends unified. -/
def readText (d : Disk) (path : Text) : Except ReadError Text := do
  let path ← (takenPath path).mapError .misuse
  let fail (fault : ReadFault) := .error (.unreadable fault (Path.read path).print)
  match d.find path with
  | .error fault => fail fault
  | .ok (.file bytes) => .ok (Text.unifyLineEnds (Text.decodeUtf8 bytes))
  | .ok (.directory _) => fail .isDirectory
  | .ok .brokenLink => fail .noEntry

/-- The files below a directory whose names end in a given text. The empty path names no
directory here. -/
def filesBelow (d : Disk) (directory ending : Text) : Except Misuse (List Text) := do
  let directory ← takenPath directory
  match directory, d.find directory with
  | _ :: _, .ok node => .ok (node.listing ending directory)
  | _, _ => .ok []

/-- The disk as a file system. -/
def fileSystem (d : Disk) : FileSystem where
  workingDirectory := d.workingDirectory
  has := d.has
  readText := d.readText
  filesBelow := d.filesBelow

end Disk
end YiiNavigator
