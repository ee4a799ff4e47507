import YiiNavigator.Failure
import YiiNavigator.Path.Basic
import YiiNavigator.Text.Quoted

/-!
# What the library asks of a file system

Every question about files goes through this interface: whether a path exists, the text of a file,
and the files below a directory. Answers are pure, so an operation asks about one state of the
files throughout. An operating system refuses paths with a NUL character: to ask it for their text
or for what lies below them is a misuse.
-/

namespace YiiNavigator

/-- Why a file cannot be read. -/
inductive ReadFault where
  /-- A store of texts holds no file of that name. -/
  | unknownFile
  | noEntry
  | isDirectory
  | notDirectory
  | nameTooLong
deriving DecidableEq, Repr

/-- Why there is no text of a file. -/
inductive ReadError where
  /-- The file cannot be read; the path is the one that was asked for. -/
  | unreadable (fault : ReadFault) (path : Text)
  | misuse (m : Misuse)
deriving DecidableEq, Repr

namespace ReadFault

/-- The fault in words, without the path. -/
def description : ReadFault → Text
  | unknownFile => "File not found".toList
  | noEntry => "No such file or directory".toList
  | isDirectory => "Is a directory".toList
  | notDirectory => "Not a directory".toList
  | nameTooLong => "File name too long".toList

/-- The number that operating systems give the fault. -/
def number : ReadFault → Nat
  | unknownFile => 2
  | noEntry => 2
  | isDirectory => 21
  | notDirectory => 20
  | nameTooLong => 36

end ReadFault

namespace ReadError

/-- The full message. -/
def message : ReadError → Text
  | unreadable .unknownFile path => ReadFault.unknownFile.description ++ ": ".toList ++ path
  | unreadable fault path =>
    "[Errno ".toList ++ Text.ofNat fault.number ++ "] ".toList ++ fault.description ++
      ": ".toList ++ Text.quoted path
  | misuse m => m.message

/-- The message for a reader who has just been told the path. A store of texts has no shorter
one. -/
def reason : ReadError → Text
  | unreadable .unknownFile path => message (unreadable .unknownFile path)
  | unreadable fault _ => fault.description
  | misuse m => m.message

end ReadError

/-- Whether a path holds the NUL character. -/
def hasNul (path : Text) : Bool := path.elem '\x00'

/-- A path that an operating system takes. -/
def takenPath (path : Text) : Except Misuse Text :=
  if hasNul path then .error .nulInPath else .ok path

/-- The questions about files. -/
structure FileSystem where
  /-- The directory that relative paths are taken from. -/
  workingDirectory : Text
  /-- Whether a path is a file or a directory. -/
  has : Text → Bool
  /-- The text of a file. -/
  readText : Text → Except ReadError Text
  /-- The files below a directory whose paths end in a given text. -/
  filesBelow : (directory ending : Text) → Except Misuse (List Text)

end YiiNavigator
