import YiiNavigator.Source.Lexer
import Mathlib.Data.List.Basic
import Mathlib.Data.List.Induction

/-!
# Lexemes of a source text

The lexer reads one character at a time and remembers a region and a parity. Here a source text is
cut in one piece after another instead: a character of code, a whole quoted string or a whole
comment, each with the offsets at which it starts and stops. Nothing in the cut refers to the
lexer; escapes are counted in the text itself.

* `isEscaped`, `lexemeAt` and `lexemes` are the cut.
* `codeFromAt_code` says that the lexer and the cut find the same characters of code.
-/

namespace YiiNavigator
namespace Source

/-! ## Escapes -/

/-- The number of backslashes at the end of a text. -/
def trailingBackslashes (text : Text) : ℕ :=
  (text.reverse.takeWhile (· == '\\')).length

/-- Whether an odd number of backslashes stands just before an offset. -/
def isEscaped (text : Text) (i : ℕ) : Bool :=
  trailingBackslashes (text.take i) % 2 == 1

lemma trailingBackslashes_append_singleton (text : Text) (c : Char) :
    trailingBackslashes (text ++ [c])
      = if c = '\\' then trailingBackslashes text + 1 else 0 := by
  by_cases h : c = '\\'
  · simp [trailingBackslashes, h]
  · simp [trailingBackslashes, h]

/-- The parity that the lexer carries is that of the backslashes it has just read. -/
lemma foldl_escapes (text : Text) :
    text.foldl Lexer.escapes false = (trailingBackslashes text % 2 == 1) := by
  induction text using List.reverseRecOn with
  | nil => rfl
  | append_singleton text c ih =>
    rw [List.foldl_append, ih, trailingBackslashes_append_singleton]
    simp only [List.foldl_cons, List.foldl_nil, Lexer.escapes]
    by_cases h : c = '\\'
    · have hparity : trailingBackslashes text % 2 = 0 ∨ trailingBackslashes text % 2 = 1 := by
        omega
      rcases hparity with h' | h' <;> simp [h, h', Nat.add_mod]
    · simp [h]

lemma isEscaped_succ {text : Text} {i : ℕ} (h : i < text.length) :
    isEscaped text (i + 1) = Lexer.escapes (isEscaped text i) text[i] := by
  rw [isEscaped, isEscaped, ← foldl_escapes, ← foldl_escapes, List.take_add_one,
    List.getElem?_eq_getElem h, Option.toList_some, List.foldl_append]
  rfl

/-! ## Searching by offsets -/

/-- The first offset from `i` on, inside a text, that has a property. -/
def firstOffset? (text : Text) (p : ℕ → Bool) (i : ℕ) : Option ℕ :=
  (List.range' i (text.length - i)).find? p

lemma firstOffset?_of_le {text : Text} {p : ℕ → Bool} {i : ℕ} (h : text.length ≤ i) :
    firstOffset? text p i = none := by
  simp [firstOffset?, Nat.sub_eq_zero_of_le h]

lemma firstOffset?_of_lt {text : Text} {p : ℕ → Bool} {i : ℕ} (h : i < text.length) :
    firstOffset? text p i = if p i then some i else firstOffset? text p (i + 1) := by
  have hlength : text.length - i = (text.length - (i + 1)) + 1 := by omega
  rw [firstOffset?, hlength, List.range'_succ, List.find?_cons]
  cases p i <;> rfl

lemma le_of_firstOffset? {text : Text} {p : ℕ → Bool} {i j : ℕ}
    (h : firstOffset? text p i = some j) : i ≤ j ∧ j < text.length := by
  have hmem := List.mem_of_find?_eq_some h
  rw [List.mem_range'_1] at hmem
  omega

/-- Whether a given character stands at an offset. -/
def isAt (text : Text) (c : Char) (i : ℕ) : Bool :=
  text[i]? == some c

/-! ## The cut -/

/-- A piece of a source text. A quoted string is given by the offsets of its quotes, the second of
which is missing when the text runs out; a comment by where it starts and where it stops. -/
inductive Lexeme where
  | code (offset : ℕ)
  | quoted (opening : ℕ) (closing : Option ℕ)
  | comment (start stop : ℕ)
deriving DecidableEq, Repr

/-- The offset just after a piece of a text of the given length. -/
def Lexeme.stop (length : ℕ) : Lexeme → ℕ
  | code i => i + 1
  | quoted _ closing => closing.elim length (· + 1)
  | comment _ stop => stop

/-- The offset of a character of code. -/
def Lexeme.codeOffset? : Lexeme → Option ℕ
  | code i => some i
  | _ => none

/-- Whether an unescaped quote stands at an offset. -/
def isOpenQuote (text : Text) (i : ℕ) : Bool :=
  text[i]?.any Reader.isQuote && !isEscaped text i

/-- Whether the string that a quote at `opening` opens is closed at an offset. -/
def isCloseQuote (text : Text) (opening i : ℕ) : Bool :=
  text[i]? == text[opening]? && !isEscaped text i

/-- Whether a line ends at an offset. -/
def isLineEnd (text : Text) (i : ℕ) : Bool :=
  isAt text '\r' i || isAt text '\n' i

/-- Whether two given characters stand at an offset. -/
def hasPair (text : Text) (a b : Char) (i : ℕ) : Bool :=
  isAt text a i && isAt text b (i + 1)

/-- The piece that starts at an offset of code. -/
def lexemeAt (text : Text) (i : ℕ) : Lexeme :=
  if isOpenQuote text i then
    .quoted i (firstOffset? text (isCloseQuote text i) (i + 1))
  else if isAt text '#' i || hasPair text '/' '/' i then
    .comment i ((firstOffset? text (isLineEnd text) (i + 1)).elim text.length (· + 1))
  else if hasPair text '/' '*' i then
    .comment i ((firstOffset? text (hasPair text '*' '/') (i + 2)).elim text.length (· + 2))
  else .code i

lemma lt_stop_lexemeAt {text : Text} {i : ℕ} (h : i < text.length) :
    i < (lexemeAt text i).stop text.length := by
  have hfirst (p : ℕ → Bool) (k n : ℕ) (hk : i < k) :
      i < (firstOffset? text p k).elim text.length (· + n) := by
    rcases hf : firstOffset? text p k with - | j
    · exact h
    · have hle := (le_of_firstOffset? hf).1
      simp only [Option.elim_some]
      omega
  unfold lexemeAt
  split
  · exact hfirst _ _ _ (by omega)
  · split
    · exact hfirst _ _ _ (by omega)
    · split
      · exact hfirst _ _ _ (by omega)
      · simp [Lexeme.stop]

/-- The pieces of a text from an offset of code on. -/
def lexemes (text : Text) (i : ℕ) : List Lexeme :=
  if _h : i < text.length then
    lexemeAt text i :: lexemes text ((lexemeAt text i).stop text.length)
  else []
termination_by text.length - i
decreasing_by
  have := lt_stop_lexemeAt _h
  omega

/-- The offsets of the characters of code from an offset of code on. -/
def codeOffsets (text : Text) (i : ℕ) : List ℕ :=
  (lexemes text i).filterMap Lexeme.codeOffset?

lemma codeOffsets_of_le {text : Text} {i : ℕ} (h : text.length ≤ i) : codeOffsets text i = [] := by
  rw [codeOffsets, lexemes, dif_neg (by omega)]
  rfl

lemma codeOffsets_of_lt {text : Text} {i : ℕ} (h : i < text.length) :
    codeOffsets text i = (lexemeAt text i).codeOffset?.toList
      ++ codeOffsets text ((lexemeAt text i).stop text.length) := by
  rw [codeOffsets, lexemes, dif_pos h, List.filterMap_cons]
  cases (lexemeAt text i).codeOffset? <;> rfl

/-! ## The code that the lexer reads -/

/-- The offsets of the characters that the lexer reads in code and that leave it there. -/
def codeFrom (l : Lexer) (offset : ℕ) : Text → List ℕ
  | [] => []
  | c :: rest =>
    let l' := l.next c rest.head?
    if l.region = .code ∧ l'.region = .code then offset :: codeFrom l' (offset + 1) rest
    else codeFrom l' (offset + 1) rest

lemma codeFrom_sublist (l : Lexer) (offset : ℕ) (text : Text) :
    (codeFrom l offset text).Sublist (List.range' offset text.length) := by
  induction text generalizing l offset with
  | nil => exact List.nil_sublist _
  | cons c rest ih =>
    rw [codeFrom, List.length_cons, List.range'_succ]
    split
    · exact (ih _ _).cons_cons _
    · exact (ih _ _).cons _

/-- The state of the lexer at an offset of a text, given its region there. -/
def stateAt (text : Text) (region : Region) (i : ℕ) : Lexer :=
  ⟨region, isEscaped text i⟩

lemma entering_take (text : Text) (i : ℕ) :
    Lexer.entering (text.take i) = stateAt text .code i := by
  rw [Lexer.entering, foldl_escapes]
  rfl

lemma stateAt_next {text : Text} {i : ℕ} (h : i < text.length) (region : Region) :
    (stateAt text region i).next text[i] text[i + 1]?
      = stateAt text ((stateAt text region i).regionAfter text[i] text[i + 1]?) (i + 1) := by
  rw [Lexer.next, stateAt, stateAt, isEscaped_succ h]

/-- The offsets of code that the lexer finds from an offset on, given its region there. -/
def codeFromAt (text : Text) (region : Region) (i : ℕ) : List ℕ :=
  codeFrom (stateAt text region i) i (text.drop i)

lemma codeFromAt_of_le {text : Text} {i : ℕ} (h : text.length ≤ i) (region : Region) :
    codeFromAt text region i = [] := by
  rw [codeFromAt, List.drop_eq_nil_of_le h]
  rfl

lemma codeFromAt_of_lt {text : Text} {i : ℕ} (h : i < text.length) (region : Region) :
    codeFromAt text region i
      = (if region = .code
            ∧ (stateAt text region i).regionAfter text[i] text[i + 1]? = .code then [i] else [])
        ++ codeFromAt text ((stateAt text region i).regionAfter text[i] text[i + 1]?) (i + 1) := by
  rw [codeFromAt, List.drop_eq_getElem_cons h, codeFrom, List.head?_drop, stateAt_next h]
  by_cases hcode : region = .code
      ∧ (stateAt text region i).regionAfter text[i] text[i + 1]? = .code
  · rw [if_pos hcode]
    exact if_pos hcode
  · rw [if_neg hcode]
    exact if_neg hcode

lemma codeFromAt_of_ne_code {text : Text} {i : ℕ} (h : i < text.length) {region : Region}
    (hregion : region ≠ .code) :
    codeFromAt text region i
      = codeFromAt text ((stateAt text region i).regionAfter text[i] text[i + 1]?) (i + 1) := by
  rw [codeFromAt_of_lt h, if_neg (fun hc => hregion hc.1), List.nil_append]

/-! ## Readings that pass over regions

What is said here holds of every reading of a text that is told by the region and the offset where
it begins, be its result the characters of code or something else. -/

section

variable {β : Type} {text : Text} {nothing : β} {read : Region → ℕ → β}

/-- A reading that passes over a region finds nothing until the offset that ends the region. -/
lemma read_skip {region after : Region} {ends : ℕ → Bool}
    (hdone : ∀ i, text.length ≤ i → read region i = nothing)
    (hpass : ∀ i (h : i < text.length), read region i
      = read ((stateAt text region i).regionAfter text[i] text[i + 1]?) (i + 1))
    (hstep : ∀ i (h : i < text.length),
      (stateAt text region i).regionAfter text[i] text[i + 1]? = if ends i then after else region)
    (i : ℕ) :
    read region i = (firstOffset? text ends i).elim nothing fun j => read after (j + 1) := by
  induction hn : text.length - i generalizing i with
  | zero =>
    have hle : text.length ≤ i := by omega
    rw [hdone i hle, firstOffset?_of_le hle]
    rfl
  | succ n ih =>
    have hlt : i < text.length := by omega
    rw [hpass i hlt, firstOffset?_of_lt hlt, hstep i hlt]
    rcases hends : ends i with - | -
    · simp only [Bool.false_eq_true, if_false]
      exact ih (i + 1) (by omega)
    · rfl

/-- Whether a region belongs to a comment. -/
def isComment : Region → Bool
  | .code => false
  | .quoted _ => false
  | _ => true

/-- A reading passes over comments, and finds nothing at the end of the text. -/
structure PassesComments (text : Text) (nothing : β) (read : Region → ℕ → β) : Prop where
  done : ∀ region i, text.length ≤ i → read region i = nothing
  pass : ∀ region i (h : i < text.length), isComment region = true → read region i
    = read ((stateAt text region i).regionAfter text[i] text[i + 1]?) (i + 1)

namespace PassesComments

lemma lineComment (h : PassesComments text nothing read) (i : ℕ) :
    read .lineComment i
      = (firstOffset? text (isLineEnd text) i).elim nothing fun j => read .code (j + 1) := by
  apply read_skip (h.done _) (fun i hi => h.pass _ i hi rfl)
  intro i hi
  simp [stateAt, Lexer.regionAfter, isLineEnd, isAt, hi]

lemma blockComment (h : PassesComments text nothing read) (i : ℕ) :
    read .blockComment i
      = (firstOffset? text (hasPair text '*' '/') i).elim nothing fun j =>
          read .blockClosing (j + 1) := by
  apply read_skip (h.done _) (fun i hi => h.pass _ i hi rfl)
  intro i hi
  simp [stateAt, Lexer.regionAfter, hasPair, isAt, hi]

/-- The second character of the mark that opens a block comment is passed over. -/
lemma blockOpening (h : PassesComments text nothing read) (i : ℕ) :
    read .blockOpening i = read .blockComment (i + 1) := by
  by_cases hi : i < text.length
  · exact h.pass _ i hi rfl
  · rw [h.done _ _ (by omega), h.done _ _ (by omega)]

/-- The second character of the mark that closes a block comment is passed over. -/
lemma blockClosing (h : PassesComments text nothing read) (i : ℕ) :
    read .blockClosing i = read .code (i + 1) := by
  by_cases hi : i < text.length
  · exact h.pass _ i hi rfl
  · rw [h.done _ _ (by omega), h.done _ _ (by omega)]

/-- After the end of a region, if it has one, reading goes on in code; otherwise the text ends. -/
lemma code_stop (h : PassesComments text nothing read) (n : ℕ) (end? : Option ℕ) :
    read .code (end?.elim text.length (· + n))
      = end?.elim nothing fun j => read .code (j + n) := by
  rcases end? with - | j
  · exact h.done _ _ (Nat.le_refl _)
  · rfl

end PassesComments

end

/-! ## The cut and the lexer agree -/

/-- The region behind a character that is read in code is that of the piece that starts there: the
inside of a string, the inside of a comment of one of the two kinds, or code. -/
lemma lexemeAt_cases {text : Text} {i : ℕ} (h : i < text.length) :
    ((stateAt text .code i).regionAfter text[i] text[i + 1]? = .quoted text[i]
        ∧ Reader.isQuote text[i] = true
        ∧ lexemeAt text i = .quoted i (firstOffset? text (isCloseQuote text i) (i + 1)))
      ∨ ((stateAt text .code i).regionAfter text[i] text[i + 1]? = .lineComment
        ∧ (text[i] = '#' ∨ text[i] = '/') ∧ lexemeAt text i
          = .comment i ((firstOffset? text (isLineEnd text) (i + 1)).elim text.length (· + 1)))
      ∨ ((stateAt text .code i).regionAfter text[i] text[i + 1]? = .blockOpening
        ∧ text[i] = '/' ∧ lexemeAt text i = .comment i
          ((firstOffset? text (hasPair text '*' '/') (i + 2)).elim text.length (· + 2)))
      ∨ ((stateAt text .code i).regionAfter text[i] text[i + 1]? = .code
        ∧ lexemeAt text i = .code i) := by
  have hregion : (stateAt text .code i).regionAfter text[i] text[i + 1]?
      = Lexer.leaveCode (isEscaped text i) text[i] text[i + 1]? := rfl
  rw [hregion]
  -- the marks are tried in one order on both sides: a quote, a line comment, a block comment
  unfold lexemeAt
  by_cases hquote : isOpenQuote text i = true
  · have hquote' : (Reader.isQuote text[i] && !isEscaped text i) = true := by
      simpa [isOpenQuote, h] using hquote
    rw [Lexer.leaveCode, if_pos hquote', if_pos hquote]
    exact Or.inl ⟨rfl, (Bool.and_eq_true_iff.1 hquote').1, rfl⟩
  · have hquote' : ¬(Reader.isQuote text[i] && !isEscaped text i) = true := by
      simpa [isOpenQuote, h] using hquote
    rw [Lexer.leaveCode, if_neg hquote', if_neg hquote]
    by_cases hline : (isAt text '#' i || hasPair text '/' '/' i) = true
    · have hline' : (text[i] = '#' || (text[i] = '/' && text[i + 1]? = some '/')) = true := by
        simpa [hasPair, isAt, h] using hline
      rw [if_pos hline', if_pos hline]
      refine Or.inr (Or.inl ⟨rfl, ?_, rfl⟩)
      simp only [Bool.or_eq_true, Bool.and_eq_true, decide_eq_true_eq] at hline'
      exact hline'.imp id And.left
    · have hline' : ¬(text[i] = '#' || (text[i] = '/' && text[i + 1]? = some '/')) = true := by
        simpa [hasPair, isAt, h] using hline
      rw [if_neg hline', if_neg hline]
      by_cases hblock : hasPair text '/' '*' i = true
      · have hblock' : (text[i] = '/' && text[i + 1]? = some '*') = true := by
          simpa [hasPair, isAt, h] using hblock
        rw [if_pos hblock', if_pos hblock]
        refine Or.inr (Or.inr (Or.inl ⟨rfl, ?_, rfl⟩))
        simp only [Bool.and_eq_true, decide_eq_true_eq] at hblock'
        exact hblock'.1
      · have hblock' : ¬(text[i] = '/' && text[i + 1]? = some '*') = true := by
          simpa [hasPair, isAt, h] using hblock
        rw [if_neg hblock', if_neg hblock]
        exact Or.inr (Or.inr (Or.inr ⟨rfl, rfl⟩))

lemma codeFromAt_passesComments (text : Text) : PassesComments text [] (codeFromAt text) where
  done := fun region i h => codeFromAt_of_le h region
  pass := by
    intro region i h hcomment
    apply codeFromAt_of_ne_code h
    intro hcode
    rw [hcode] at hcomment
    cases hcomment

/-- In a string the lexer finds nothing until the quote that closes the string. -/
lemma codeFromAt_quoted {text : Text} {opening i : ℕ} {mark : Char}
    (hmark : text[opening]? = some mark) :
    codeFromAt text (.quoted mark) i
      = (firstOffset? text (isCloseQuote text opening) i).elim [] fun j =>
          codeFromAt text .code (j + 1) := by
  apply read_skip (fun i h => codeFromAt_of_le h _)
    (fun i h => codeFromAt_of_ne_code h (by simp))
  intro i h
  simp [stateAt, Lexer.regionAfter, isCloseQuote, hmark, h]

/-- The lexer reads a piece of the cut as a whole. -/
lemma codeFromAt_lexemeAt {text : Text} {i : ℕ} (h : i < text.length) :
    codeFromAt text .code i = (lexemeAt text i).codeOffset?.toList
      ++ codeFromAt text .code ((lexemeAt text i).stop text.length) := by
  have hpasses := codeFromAt_passesComments text
  rw [codeFromAt_of_lt h]
  rcases lexemeAt_cases h with ⟨hregion, -, hpiece⟩ | ⟨hregion, -, hpiece⟩ |
    ⟨hregion, -, hpiece⟩ | ⟨hregion, hpiece⟩
  · rw [hregion, hpiece, if_neg (by simp), codeFromAt_quoted (List.getElem?_eq_getElem h)]
    exact (hpasses.code_stop 1 _).symm
  · rw [hregion, hpiece, if_neg (by simp), hpasses.lineComment]
    exact (hpasses.code_stop 1 _).symm
  · rw [hregion, hpiece, if_neg (by simp), hpasses.blockOpening, hpasses.blockComment]
    simp only [hpasses.blockClosing]
    exact (hpasses.code_stop 2 _).symm
  · rw [hregion, hpiece, if_pos ⟨rfl, rfl⟩]
    rfl

/-- The lexer that enters a text at an offset finds the characters of code that the cut has. -/
lemma codeFromAt_code (text : Text) (i : ℕ) : codeFromAt text .code i = codeOffsets text i := by
  -- a piece may be long, so the induction skips to where it stops
  induction hn : text.length - i using Nat.strongRecOn generalizing i with
  | ind n ih =>
    by_cases h : i < text.length
    · have hstop := lt_stop_lexemeAt h
      rw [codeFromAt_lexemeAt h, codeOffsets_of_lt h, ih _ (by omega) _ rfl]
    · rw [codeFromAt_of_le (by omega), codeOffsets_of_le (by omega)]

lemma codeOffsets_pairwise (text : Text) (i : ℕ) : (codeOffsets text i).Pairwise (· < ·) := by
  rw [← codeFromAt_code]
  exact (List.pairwise_lt_range' _).sublist (codeFrom_sublist _ _ _)

end Source
end YiiNavigator
