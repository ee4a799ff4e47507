import YiiNavigator.Action.Basic
import YiiNavigator.Source.Lexer

/-!
# Keys of an array literal

The keys of an array literal are the quoted strings at its top level that are followed by a double
arrow. Nested brackets, of either shape, are passed over, and so are comments.
-/

namespace YiiNavigator
namespace Source

/-- Whether a double arrow comes next, blanks left out. -/
def arrowFollows (text : Text) : Bool :=
  "=>".toList.isPrefixOf (text.dropWhile Text.isBlank)

/-- Whether a character opens an array or a list of arguments. -/
def opensBracket (c : Char) : Bool :=
  c == '(' || c == '['

/-- Whether a character closes an array or a list of arguments. -/
def closesBracket (c : Char) : Bool :=
  c == ')' || c == ']'

/-- The keys in the rest of an array literal, `depth` inner brackets being open. While a string is
read, `seen` holds its characters so far, the last one first. The scan ends at the offset `limit`,
and from there on it sees neither a character behind the one it reads nor an arrow. -/
def keysFrom (limit : Nat) (l : Lexer) (depth : Nat) (seen : Text) (offset : Nat) :
    Text → List Literal
  | [] => []
  | c :: rest =>
    let l' := l.next c (if offset + 1 < limit then rest.head? else none)
    if limit ≤ offset then []
    else match l.region with
    | .code =>
      if opensBracket c then keysFrom limit l' (depth + 1) [] (offset + 1) rest
      else if closesBracket c then
        match depth with
        | 0 => []
        | depth + 1 => keysFrom limit l' depth [] (offset + 1) rest
      else keysFrom limit l' depth [] (offset + 1) rest
    | .quoted _ =>
      if l'.region = .code then
        let keys := keysFrom limit l' depth [] (offset + 1) rest
        if depth = 0 && arrowFollows (rest.take (limit - (offset + 1))) then
          ⟨seen.reverse, offset - seen.length⟩ :: keys
        else keys
      else keysFrom limit l' depth (c :: seen) (offset + 1) rest
    | _ => keysFrom limit l' depth [] (offset + 1) rest

/-- The keys of the array literal whose opening bracket ends at `start`. The scan ends at `stop`,
unless that is the number of a missing end, and at the end of the text. A negative offset is the
front of the text. -/
def arrayKeys (text : Text) (start stop : Int) : List Literal :=
  let limit := if stop = Action.unbounded then text.length else min stop.toNat text.length
  let start := start.toNat
  keysFrom limit (.entering (text.take start)) 0 [] start (text.drop start)

end Source
end YiiNavigator
