import YiiNavigator.CommandLine.Run
import YiiNavigator.FileSystem.Disk

/-!
# The command line program

A command runs on a snapshot: the tree below its workspace root and the tree around its document
are read before it starts. Only files whose text a command may ask for are read in full. What it
hands to the screen is drawn by whoever runs it.
-/

namespace YiiNavigator
namespace Main

open CommandLine

/-- The document and the workspace root of a command. -/
def places : Command → Option Text × Option Text
  | .actions file => (some file, none)
  | .views file _ _ root => (some file, some root)
  | .resolve _ file _ root => (some file, some root)
  | .controller file root => (some file, some root)
  | .route _ file _ root => (some file, some root)
  | .layout _ file _ root => (some file, some root)
  | .check file root => (some file, some root)
  | .detect root => (none, some root)
  | .serve _ _ _ root => (none, some root)

/-- The directory around a document that a snapshot takes in: the one that holds the first
protected, views or controllers directory on the way to it. -/
def surroundings? (conv : Checked Convention) (file : Text) : Option Text :=
  match conv with
  | .error _ => none
  | .ok conv =>
    let marks := [conv.protectedDir, conv.viewsDir, conv.controllersDir]
    let p := Path.read file
    let outside := p.segments.takeWhile fun segment => !marks.elem segment
    if outside.length < p.segments.length then some (Path.print ⟨p.anchor, outside⟩) else none

/-- Whether the text of a file below the workspace may be asked for. -/
def isRead (conv : Checked Convention) (name : Text) : Bool :=
  name == "index.php".toList || match conv with
    | .ok conv => conv.controllerEnding.isSuffixOf name
    | .error _ => false

/-- The bytes of a file, none if it cannot be read. -/
def bytesOf (path : Text) : IO (List UInt8) := do
  try return (← IO.FS.readBinFile (String.ofList path)).toList
  catch _ => return []

/-- The disk with what is at a path, a file being read in full and a directory left empty. -/
def addDocument (d : Disk) (path : Text) : IO Disk := do
  let here ← IO.currentDir
  let place := here / String.ofList path
  if ← place.isDir then return d.addDirectory path
  else if ← place.pathExists then return d.addFile path (← bytesOf path)
  else return d

/-- The disk with everything at a path. -/
partial def addTree (wanted : Text → Bool) (d : Disk) (path : Text) : IO Disk := do
  let here ← IO.currentDir
  let place := here / String.ofList path
  if ← place.isDir then
    let mut d := d.addDirectory path
    for entry in ← place.readDir do
      d ← addTree wanted d (Path.joinText path entry.fileName.toList)
    return d
  else if ← place.pathExists then
    let bytes ← if wanted (Path.splitLast path).2 then bytesOf path else pure []
    return d.addFile path bytes
  else return d.addBrokenLink path

/-- The disk with the tree at a path, unless there is no directory. -/
def addTreeAt (wanted : Text → Bool) (d : Disk) (path : Text) : IO Disk := do
  let here ← IO.currentDir
  if ← (here / String.ofList path).isDir then addTree wanted d path else return d

/-- The snapshot that a command runs on. -/
def snapshot (conv : Checked Convention) (workingDirectory : Text) (command : Command) :
    IO Disk := do
  let d := Disk.empty workingDirectory
  let whole (path : Text) := (absolute d.fileSystem path).toOption
  let (file, root) := places command
  let around := match root with
    | none => none
    | some _ => (file.bind whole).bind (surroundings? conv)
  let trees := around.toList ++ (root.bind whole).toList
  let d ← trees.foldlM (addTreeAt (isRead conv)) d
  match file.bind whole with
  | some file => addDocument d file
  | none => return d

/-- The environment variables that settings are taken from. -/
def environment : IO (List (Text × Text)) := do
  let given ← Convention.settings.mapM fun s => do
    let value ← IO.getEnv (String.ofList s.environment)
    return value.map fun v => (s.environment, v.toList)
  return given.filterMap id

/-- Runs a command line on the files of the machine, draws what it shows and gives the exit code. -/
def run (draw : Piece → Text) (arguments : List Text) : IO UInt32 := do
  let workingDirectory := (← IO.currentDir).toString.toList
  let conv := Convention.load (← environment) []
  let d ← match Command.read arguments with
    | .command c => snapshot conv workingDirectory c
    | _ => pure (Disk.empty workingDirectory)
  match CommandLine.run conv d.fileSystem arguments with
  | .ok o =>
    IO.print (String.ofList (o.output draw))
    match o.service with
    | some served => IO.eprint (String.ofList (draw served.notice))
    | none => pure ()
    return o.exitCode.toUInt32
  | .error (.misuse m) =>
    IO.eprintln (String.ofList m.message)
    return 1
  | .error (.settings faults) =>
    for fault in faults do
      IO.eprintln (String.ofList (['.'].intercalate fault.location ++ ": ".toList ++
        fault.cause.message))
    return 1

/-- A piece as it is handed over, with tabs between the cells of a row. -/
def plain : Piece → Text
  | .line text => text ++ ['\n']
  | .table header rows =>
    (header :: rows).flatMap fun cells => ['\t'].intercalate cells ++ ['\n']

end Main
end YiiNavigator

/-- The command line program on a screen without tables. -/
def main (arguments : List String) : IO UInt32 :=
  YiiNavigator.Main.run YiiNavigator.Main.plain (arguments.map String.toList)
