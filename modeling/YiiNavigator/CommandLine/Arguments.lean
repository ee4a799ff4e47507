import YiiNavigator.Text.Basic

/-!
# Arguments of a command

Options begin with a dash and may stand among the other arguments; a lone dash is no option. The
value of an option follows it, whatever it looks like, or is attached by an equals sign. One-letter
flags may share a dash. Everything after a lone double dash is an argument.
-/

namespace YiiNavigator
namespace CommandLine

/-- An option that a command knows: its name with the dashes, its letter, and whether a value
belongs to it. -/
structure OptionSpec where
  name : Text
  letter : Option Char
  takesValue : Bool

/-- Arguments sorted into those that stand alone, the values of options and the flags given. Of
several values of one option the last one comes first. -/
structure Arguments where
  positionals : List Text
  values : List (Text × Text)
  flags : List Text
deriving DecidableEq, Repr

namespace Arguments

/-- No arguments. -/
def empty : Arguments := ⟨[], [], []⟩

/-- The value of an option. -/
def value? (a : Arguments) (name : String) : Option Text :=
  a.values.lookup name.toList

/-- Whether a flag is given. -/
def hasFlag (a : Arguments) (name : String) : Bool :=
  a.flags.elem name.toList

/-- Whether an argument is an option. -/
def isOption (argument : Text) : Bool :=
  ['-'].isPrefixOf argument && decide (1 < argument.length)

/-- The name of an option, and the value attached to it. -/
def splitAttached (argument : Text) : Text × Option Text :=
  match argument.dropWhile (· ≠ '=') with
  | _ :: value => (argument.takeWhile (· ≠ '='), some value)
  | [] => (argument, none)

/-- The names of the flags that share a dash. -/
def lettered? (specs : List OptionSpec) (letters : Text) : Option (List Text) :=
  letters.mapM fun c =>
    (specs.find? fun spec => spec.letter == some c && !spec.takesValue).map (·.name)

/-- The arguments with one more that stands alone. -/
def addPositional (a : Arguments) (argument : Text) : Arguments :=
  { a with positionals := a.positionals ++ [argument] }

/-- The arguments with a value of an option. -/
def addValue (a : Arguments) (name value : Text) : Arguments :=
  { a with values := (name, value) :: a.values }

/-- The arguments with more flags. -/
def addFlags (a : Arguments) (names : List Text) : Arguments :=
  { a with flags := a.flags ++ names }

/-- Sorts arguments after those that are `sorted`; `awaiting` is an option whose value comes next.
With `leading`, options end at the first argument that is none. There is no result when an option is
unknown, lacks its value or has one that it does not take. -/
def sortFrom? (specs : List OptionSpec) (leading : Bool) (awaiting : Option Text)
    (sorted : Arguments) : List Text → Option Arguments
  | [] => if awaiting.isSome then none else some sorted
  | argument :: rest => match awaiting with
    | some name => sortFrom? specs leading none (sorted.addValue name argument) rest
    | none =>
      if argument = "--".toList then some (rest.foldl addPositional sorted)
      else if !isOption argument then
        if leading then some ((argument :: rest).foldl addPositional sorted)
        else sortFrom? specs leading none (sorted.addPositional argument) rest
      else
        let (name, attached) := splitAttached argument
        match specs.find? (·.name == name) with
        | some spec => match spec.takesValue, attached with
          | true, some value => sortFrom? specs leading none (sorted.addValue name value) rest
          | true, none => sortFrom? specs leading (some name) sorted rest
          | false, some _ => none
          | false, none => sortFrom? specs leading none (sorted.addFlags [name]) rest
        | none =>
          if "--".toList.isPrefixOf argument then none
          else match lettered? specs (argument.drop 1) with
            | some names => sortFrom? specs leading none (sorted.addFlags names) rest
            | none => none

/-- Sorts the arguments of a command. -/
def sort? (specs : List OptionSpec) (leading : Bool) (arguments : List Text) : Option Arguments :=
  sortFrom? specs leading none empty arguments

end Arguments
end CommandLine
end YiiNavigator
