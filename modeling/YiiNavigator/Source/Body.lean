import YiiNavigator.Source.Lexer

/-!
# Method bodies

The body of a method is the first pair of braces after its header, strings and comments left out of
the account. A semicolon before any brace means that the method has no body. A closing brace before
the body closes something else and is passed over.
-/

namespace YiiNavigator

/-- Where a body lies: `stop` is the offset just after its closing brace. -/
inductive Body where
  | absent
  | unclosed (start : Nat)
  | closed (start stop : Nat)
deriving DecidableEq, Repr

namespace Body

/-- Reads on for the brace that closes a body opened at `start`, `depth` inner braces being open. -/
def findClosing (start depth : Nat) (l : Lexer) (offset : Nat) : Text → Body
  | [] => .unclosed start
  | c :: rest =>
    let l' := l.next c rest.head?
    if l.region = .code ∧ c = '{' then findClosing start (depth + 1) l' (offset + 1) rest
    else if l.region = .code ∧ c = '}' then
      match depth with
      | 0 => .closed start (offset + 1)
      | depth + 1 => findClosing start depth l' (offset + 1) rest
    else findClosing start depth l' (offset + 1) rest

/-- Reads on for the brace that opens a body. -/
def findOpening (l : Lexer) (offset : Nat) : Text → Body
  | [] => .absent
  | c :: rest =>
    let l' := l.next c rest.head?
    if l.region = .code ∧ c = ';' then .absent
    else if l.region = .code ∧ c = '{' then findClosing offset 0 l' (offset + 1) rest
    else findOpening l' (offset + 1) rest

/-- The body that follows an offset; a negative offset is the front of the text. -/
def find (text : Text) (offset : Int) : Body :=
  let start := offset.toNat
  findOpening (.entering (text.take start)) start (text.drop start)

/-- The offset of the opening brace. -/
def start? : Body → Option Nat
  | absent => none
  | unclosed start => some start
  | closed start _ => some start

/-- The offset just after the closing brace. -/
def stop? : Body → Option Nat
  | absent => none
  | unclosed _ => none
  | closed _ stop => some stop

end Body
end YiiNavigator
