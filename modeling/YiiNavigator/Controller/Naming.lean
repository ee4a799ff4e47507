import YiiNavigator.Convention
import YiiNavigator.Text.Alphanumeric
import YiiNavigator.Text.Case

/-!
# Names of controllers, actions and views

Ids in routes and paths are words joined by hyphens or underscores; class and method names join the
same words with capitals. A view belongs to an action by name when one is the other in small
letters, with or without underscores between the words.
-/

namespace YiiNavigator
namespace Naming

/-- Whether a character separates the words of an id. -/
def isSeparator (c : Char) : Bool :=
  c == '-' || c == '_'

/-- The words of an id; empty ones do not count. -/
def words (id : Text) : List Text :=
  (id.splitOnP isSeparator).filter fun word => !word.isEmpty

/-- The class name of an id: its words with capitals at their fronts. Other letters keep their
case. -/
def className (id : Text) : Text :=
  (words id).flatMap Text.upperFirst

/-- The class name with its first letter in lower case. -/
def lowerClassName (id : Text) : Text :=
  Text.lowerFirst (className id)

/-- The method name of an action id. -/
def methodName (conv : Convention) (id : Text) : Text :=
  conv.actionPrefix ++ className id

/-- The name of an action without the action prefix, if it has it. -/
def withoutPrefix (conv : Convention) (action : Text) : Text :=
  if conv.actionPrefix.isPrefixOf action then action.drop conv.actionPrefix.length else action

/-- A text with an underscore before each of its capitals. -/
def markCapitals (text : Text) : Text :=
  text.flatMap fun c => if Text.isCapital c then ['_', c] else [c]

/-- The name with an underscore before each capital except the first character. -/
def separated : Text → Text
  | [] => []
  | c :: rest => c :: markCapitals rest

/-- Whether an action and a view belong together by their names. -/
def matchesView (conv : Convention) (action view : Text) : Bool :=
  let name := withoutPrefix conv action
  Text.lower name == Text.lower view || Text.lower (separated name) == Text.lower view

end Naming
end YiiNavigator
