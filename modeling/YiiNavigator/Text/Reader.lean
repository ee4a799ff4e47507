import YiiNavigator.Text.Alphanumeric
import YiiNavigator.Text.Blank
import YiiNavigator.Text.Case

/-!
# Readers and their occurrences

A reader accepts some texts at their front: it gives a value and the number of characters it
accepted. Readers are composed in sequence, and the only choice among them is made by what comes
next, so no reader takes back what it accepted; `spaced` alone tries several lengths.

`Reader.occurrences` lists where a reader accepts inside a text, from left to right, each
occurrence beginning at or after the end of the one before.
-/

namespace YiiNavigator

/-- Accepts a front part of a text and counts its characters. -/
def Reader (α : Type) := Text → Option (α × Nat)

namespace Reader

variable {α β : Type}

/-! ## Composition -/

/-- Accepts the empty text. -/
def accept (a : α) : Reader α :=
  fun _ => some (a, 0)

/-- One reader after another, which may depend on the value of the first. -/
def andThen (r : Reader α) (next : α → Reader β) : Reader β := fun text =>
  match r text with
  | none => none
  | some (a, n) => match next a (text.drop n) with
    | none => none
    | some (b, m) => some (b, n + m)

instance : Monad Reader where
  pure := accept
  bind := andThen

/-- Two readers in sequence accept what the first accepts followed by what the second accepts. -/
theorem bind_eq_some_iff {r : Reader α} {next : α → Reader β} {text : Text} {b : β} {n : Nat} :
    (r >>= next) text = some (b, n) ↔
      ∃ a k m, r text = some (a, k) ∧ next a (text.drop k) = some (b, m) ∧ n = k + m := by
  change andThen r next text = _ ↔ _
  constructor
  · intro e
    unfold andThen at e
    split at e
    · cases e
    · rename_i a k ha
      split at e
      · cases e
      · rename_i b' m hb
        cases e
        exact ⟨a, k, m, ha, hb, rfl⟩
  · rintro ⟨a, k, m, ha, hb, rfl⟩
    simp [andThen, ha, hb]

/-- The first reader where it accepts, the second elsewhere. -/
def orElse (r s : Reader α) : Reader α := fun text =>
  match r text with
  | some result => some result
  | none => s text

/-! ## Characters and words -/

/-- A character of a class. -/
def one (p : Char → Bool) : Reader Char
  | [] => none
  | c :: _ => if p c then some (c, 1) else none

/-- The longest run of characters of a class, possibly empty. -/
def run (p : Char → Bool) : Reader Text := fun text =>
  let taken := text.takeWhile p
  some (taken, taken.length)

/-- The longest run of characters of a class, at least one. -/
def run1 (p : Char → Bool) : Reader Text := fun text =>
  let taken := text.takeWhile p
  if taken.isEmpty then none else some (taken, taken.length)

/-- A given word. -/
def word (w : Text) : Reader Unit := fun text =>
  if w.isPrefixOf text then some ((), w.length) else none

theorem word_eq_some_iff {w text : Text} {n : Nat} :
    word w text = some ((), n) ↔ w <+: text ∧ n = w.length := by
  by_cases h : w <+: text
  · simp only [word, List.isPrefixOf_iff_prefix, h, if_true, Option.some.injEq, Prod.mk.injEq,
      true_and]
    exact eq_comm
  · simp [word, h]

/-- A given keyword, in capitals or small letters. -/
def keyword (w : Text) : Reader Unit := fun text =>
  if (w.map Text.foldLetter).isPrefixOf ((text.take w.length).map Text.foldLetter) then
    some ((), w.length)
  else none

/-- Whether a given word comes next; the word is accepted when it does. -/
def optional (w : Text) : Reader Bool := fun text =>
  if w.isPrefixOf text then some (true, w.length) else some (false, 0)

/-- Blanks, possibly none. -/
def blanks : Reader Text :=
  run Text.isBlank

/-- A given word with blanks before it, possibly none. -/
def token (w : Text) : Reader Unit := do
  let _ ← blanks
  word w

/-- Blanks, at least one, and then what a reader accepts. The reader may accept blanks of its own:
it is left as few of them as it can do with. -/
def spaced (r : Reader α) : Text → Option (α × Nat)
  | [] => none
  | c :: rest =>
    if Text.isBlank c then
      match spaced r rest with
      | some (a, n) => some (a, n + 1)
      | none => (r rest).map fun (a, n) => (a, n + 1)
    else none

/-! ## Quoted literals -/

/-- Whether a character is a quote. -/
def isQuote (c : Char) : Bool :=
  c == '\x27' || c == '\x22'

/-- A quote, a name without quotes, and the same quote. -/
def literal : Reader Text := do
  let mark ← one isQuote
  let name ← run1 (!isQuote ·)
  let _ ← one (· == mark)
  return name

/-! ## Occurrences -/

end Reader

/-- A place where a reader accepts. -/
structure Occurrence (α : Type) where
  start : Nat
  length : Nat
  value : α

/-- The offset just after an occurrence. -/
def Occurrence.stop {α : Type} (o : Occurrence α) : Nat :=
  o.start + o.length

namespace Reader

variable {α : Type}

/-- The occurrences in the rest of a text that begins at `offset`, its first `skip` characters left
out because the last occurrence covers them. -/
def occurrencesFrom (r : Reader α) (offset skip : Nat) : Text → List (Occurrence α)
  | [] => []
  | c :: rest => match skip with
    | skip + 1 => occurrencesFrom r (offset + 1) skip rest
    | 0 => match r (c :: rest) with
      | none => occurrencesFrom r (offset + 1) 0 rest
      | some (a, n) => ⟨offset, n, a⟩ :: occurrencesFrom r (offset + 1) (n - 1) rest

/-- The occurrences in a text, from left to right and without overlap. -/
def occurrences (r : Reader α) (text : Text) : List (Occurrence α) :=
  occurrencesFrom r 0 0 text

/-- The first occurrence in the rest of a text that begins at `offset`. -/
def firstFrom? (r : Reader α) (offset : Nat) : Text → Option (Occurrence α)
  | [] => none
  | c :: rest => match r (c :: rest) with
    | none => firstFrom? r (offset + 1) rest
    | some (a, n) => some ⟨offset, n, a⟩

end Reader

/-! ## Literals at the end of a call -/

/-- A name in quotes, and the offset of its first character. -/
structure Literal where
  name : Text
  offset : Nat
deriving DecidableEq, Repr

namespace Literal

/-- The literal at the end of an occurrence, whose last character is the closing quote. -/
def atEnd {α : Type} (o : Occurrence α) (name : Text) : Literal :=
  ⟨name, o.stop - 1 - name.length⟩

/-- Whether an offset lies on the literal, its quotes included. -/
def covers (l : Literal) (offset : Int) : Bool :=
  decide ((l.offset : Int) - 1 ≤ offset ∧ offset ≤ l.offset + l.name.length)

end Literal
end YiiNavigator
