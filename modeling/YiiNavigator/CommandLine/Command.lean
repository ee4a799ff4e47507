import YiiNavigator.CommandLine.Arguments
import YiiNavigator.Text.Integer

/-!
# Commands

The commands of the command line and how their arguments are read.
-/

namespace YiiNavigator
namespace CommandLine

/-- A command with its arguments. -/
inductive Command where
  | actions (file : Text)
  | views (file : Text) (action : Option Text) (offset : Option Int) (root : Text)
  | resolve (name file : Text) (isPartial : Bool) (root : Text)
  | controller (file root : Text)
  | route (route : Option Text) (file : Text) (offset : Option Int) (root : Text)
  | layout (name : Option Text) (file : Text) (offset : Option Int) (root : Text)
  | check (file root : Text)
  | detect (root : Text)
  | serve (transport host : Text) (port : Int) (root : Text)
deriving DecidableEq, Repr

/-- What a command line asks for. -/
inductive Invocation where
  | command (c : Command)
  | help
  | misused
deriving DecidableEq, Repr

namespace Command

/-! ## Options -/

/-- The option that asks for help; every command has it. -/
def helpOption : OptionSpec := ⟨"--help".toList, some 'h', false⟩

/-- A flag of a command. -/
def flag (name : String) : OptionSpec := ⟨name.toList, none, false⟩

/-- An option with a value. -/
def valued (name : String) : OptionSpec := ⟨name.toList, none, true⟩

/-- The workspace root, the current directory unless it is given. -/
def rootOf (a : Arguments) : Text :=
  (a.value? "--root").getD ['.']

/-- The integer value of an option; the outer result is missing when the value is no integer. -/
def integer? (a : Arguments) (name : String) : Option (Option Int) :=
  match a.value? name with
  | none => some none
  | some value => (Text.readInteger value).toOption.map some

/-! ## Reading a command -/

/-- The options of a command. -/
def options (name : Text) : List OptionSpec :=
  if name = "views".toList then [valued "--action", valued "--offset", valued "--root"]
  else if name = "resolve".toList then [valued "--from", flag "--partial", valued "--root"]
  else if name = "controller".toList then [valued "--root"]
  else if name = "route".toList then [valued "--from", valued "--offset", valued "--root"]
  else if name = "layout".toList then [valued "--from", valued "--offset", valued "--root"]
  else if name = "check".toList then [valued "--root"]
  else []

/-- The command of a name with sorted arguments, unless they do not fit it. -/
def ofArguments? (name : Text) (a : Arguments) : Option Command :=
  if name = "actions".toList then
    match a.positionals with
    | [file] => some (actions file)
    | _ => none
  else if name = "views".toList then
    match a.positionals, integer? a "--offset" with
    | [file], some offset => some (views file (a.value? "--action") offset (rootOf a))
    | _, _ => none
  else if name = "resolve".toList then
    match a.positionals, a.value? "--from" with
    | [view], some file => some (resolve view file (a.hasFlag "--partial") (rootOf a))
    | _, _ => none
  else if name = "controller".toList then
    match a.positionals with
    | [file] => some (controller file (rootOf a))
    | _ => none
  else if name = "route".toList then
    match a.positionals, a.value? "--from", integer? a "--offset" with
    | [], some file, some offset => some (route none file offset (rootOf a))
    | [target], some file, some offset => some (route (some target) file offset (rootOf a))
    | _, _, _ => none
  else if name = "layout".toList then
    match a.positionals, a.value? "--from", integer? a "--offset" with
    | [], some file, some offset => some (layout none file offset (rootOf a))
    | [target], some file, some offset => some (layout (some target) file offset (rootOf a))
    | _, _, _ => none
  else if name = "check".toList then
    match a.positionals with
    | [file] => some (check file (rootOf a))
    | _ => none
  else if name = "detect".toList then
    match a.positionals with
    | [] => some (detect ['.'])
    | [root] => some (detect root)
    | _ => none
  else none

/-- The options of the command that starts a server. -/
def serveOptions : List OptionSpec :=
  [valued "--transport", valued "--host", valued "--port", valued "--root"]

/-- The command that starts a server, with sorted arguments. -/
def serveOfArguments? (a : Arguments) : Option Command :=
  match a.positionals, integer? a "--port" with
  | [], some port => some (serve ((a.value? "--transport").getD "stdio".toList)
      ((a.value? "--host").getD "127.0.0.1".toList) (port.getD 8000) (rootOf a))
  | _, _ => none

/-- Reads the arguments of one command. A request for help comes before any other fault than that
of an option. -/
def invoke (specs : List OptionSpec) (build : Arguments → Option Command)
    (arguments : List Text) : Invocation :=
  match Arguments.sort? (helpOption :: specs) false arguments with
  | none => .misused
  | some a =>
    if a.hasFlag "--help" then .help
    else match build a with
      | some c => .command c
      | none => .misused

/-- Reads the options before the name of a command; `next` reads the name and what follows. -/
def dispatch (specs : List OptionSpec) (next : Text → List Text → Invocation)
    (arguments : List Text) : Invocation :=
  match Arguments.sort? (helpOption :: specs) true arguments with
  | none => .misused
  | some a =>
    if a.hasFlag "--help" then .help
    else match a.positionals with
      | [] => .misused
      | name :: rest => next name rest

/-- The names of the commands, the servers left out. -/
def names : List Text :=
  ["actions", "views", "resolve", "controller", "route", "layout", "check", "detect"].map
    String.toList

/-- Reads a command line, the name of the program left out. -/
def read (arguments : List Text) : Invocation :=
  dispatch [⟨"--verbose".toList, some 'v', false⟩]
    (fun name rest =>
      if name = "serve".toList then
        dispatch []
          (fun server rest =>
            if server = "mcp".toList then invoke serveOptions serveOfArguments? rest
            else .misused)
          rest
      else if names.elem name then invoke (options name) (ofArguments? name) rest
      else .misused)
    arguments

end Command
end CommandLine
end YiiNavigator
