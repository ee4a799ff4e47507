import YiiNavigator.Text.Reader

/-!
# Lexical regions of a source text

Reading a source text from some offset, every character belongs to code, to a quoted string, to a
line comment or to a block comment. The lexer moves one character at a time; it looks at the
character after the one it reads, and remembers whether an odd number of backslashes precedes.

* An unescaped quote in code opens a string; the next unescaped quote of the same kind closes it.
* A number sign or two slashes open a comment that ends with the line.
* A slash and a star open a comment that ends at the first star and slash after them.
-/

namespace YiiNavigator

/-- What the next character belongs to. The two-character marks of block comments have regions of
their own for their second character. -/
inductive Region where
  | code
  | quoted (mark : Char)
  | lineComment
  | blockOpening
  | blockComment
  | blockClosing
deriving DecidableEq, Repr

/-- The state before a character: its region, and whether an odd number of backslashes stands
before it. -/
structure Lexer where
  region : Region
  escaped : Bool
deriving DecidableEq, Repr

namespace Lexer

/-- Whether a character escapes the one after it, given whether it is escaped itself. -/
def escapes (escaped : Bool) (c : Char) : Bool :=
  c == '\\' && !escaped

/-- The state at an offset where reading begins, in code. Backslashes before that offset count. -/
def entering (before : Text) : Lexer :=
  ⟨.code, before.foldl escapes false⟩

/-- The region that a character of code leads to. -/
def leaveCode (escaped : Bool) (c : Char) (following : Option Char) : Region :=
  if Reader.isQuote c && !escaped then .quoted c
  else if c = '#' || (c = '/' && following = some '/') then .lineComment
  else if c = '/' && following = some '*' then .blockOpening
  else .code

/-- The region after a character `c`, `following` being the character behind it. -/
def regionAfter (l : Lexer) (c : Char) (following : Option Char) : Region :=
  match l.region with
  | .code => leaveCode l.escaped c following
  | .quoted mark => if c = mark && !l.escaped then .code else .quoted mark
  | .lineComment => if c = '\r' || c = '\n' then .code else .lineComment
  | .blockOpening => .blockComment
  | .blockComment => if c = '*' && following = some '/' then .blockClosing else .blockComment
  | .blockClosing => .code

/-- The state after a character. -/
def next (l : Lexer) (c : Char) (following : Option Char) : Lexer :=
  ⟨l.regionAfter c following, escapes l.escaped c⟩

end Lexer
end YiiNavigator
