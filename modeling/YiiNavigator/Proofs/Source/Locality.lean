import Mathlib.Data.Int.Notation
import Mathlib.Data.List.Basic
import YiiNavigator.Proofs.Source.Lexeme
import YiiNavigator.Source.Body

/-!
# What the search for a body reads

The search for a body looks at most one character ahead, and at the brace that closes the body it
looks at no other character. So a body with an end is found within the part of the text up to that
end (`FoundWithin`), and whatever comes behind it makes no difference (`find_append`). Of the text
in front it reads no more than the backslashes that stand right before it, and so it finds the same
body in a longer text, so many characters further on (`find_isLocal`).
-/

namespace YiiNavigator
namespace Body

variable {text : Text} {start stop depth offset : ℕ} {l : Lexer}

/-- Whether a search that begins at an offset finds a body within the front part of a text, whatever
comes behind the end of the body. -/
def FoundWithin (search : Text → Body) (offset : ℕ) (text : Text) (start stop : ℕ) : Prop :=
  ∃ front rest, text = front ++ rest ∧ front ≠ [] ∧ stop = offset + front.length
    ∧ ∀ after, search (front ++ after) = .closed start stop

/-- One character before a body that is found within the front part. -/
lemma FoundWithin.cons {search : Text → Body} (later : Lexer → Text → Body) {c : Char}
    (hgo : ∀ rest, search (c :: rest) = later (l.next c rest.head?) rest)
    (h : FoundWithin (later (l.next c text.head?)) (offset + 1) text start stop) :
    FoundWithin search offset (c :: text) start stop := by
  obtain ⟨front, rest, rfl, hne, rfl, hfound⟩ := h
  refine ⟨c :: front, rest, rfl, List.cons_ne_nil _ _, ?_, fun after => ?_⟩
  · rw [List.length_cons]
    omega
  · -- the character that the lexer looks ahead to belongs to the front part
    have hhead (after : Text) : (front ++ after).head? = front.head? :=
      List.head?_append_of_ne_nil front hne
    rw [List.cons_append, hgo, hhead, ← hhead rest]
    exact hfound after

/-! ## The closing brace -/

/-- One character of the search for the end of a body: either it closes the body, whatever comes
behind it, or the search goes on behind it at a depth that does not depend on what comes there. -/
lemma findClosing_cons (start depth : ℕ) (l : Lexer) (offset : ℕ) (c : Char) :
    (∀ rest, findClosing start depth l offset (c :: rest) = .closed start (offset + 1))
      ∨ ∃ depth', ∀ rest, findClosing start depth l offset (c :: rest)
        = findClosing start depth' (l.next c rest.head?) (offset + 1) rest := by
  by_cases hopen : l.region = .code ∧ c = '{'
  · right
    refine ⟨depth + 1, fun rest => ?_⟩
    rw [findClosing.eq_def]
    exact if_pos hopen
  · by_cases hclose : l.region = .code ∧ c = '}'
    · rcases depth with - | depth
      · left
        intro rest
        rw [findClosing.eq_def]
        exact (if_neg hopen).trans (if_pos hclose)
      · right
        refine ⟨depth, fun rest => ?_⟩
        rw [findClosing.eq_def]
        exact (if_neg hopen).trans (if_pos hclose)
    · right
      refine ⟨depth, fun rest => ?_⟩
      rw [findClosing.eq_def]
      exact (if_neg hopen).trans (if_neg hclose)

lemma foundWithin_of_findClosing {start' : ℕ}
    (h : findClosing start depth l offset text = .closed start' stop) :
    FoundWithin (findClosing start depth l offset) offset text start' stop := by
  induction text generalizing depth l offset with
  | nil => cases h
  | cons c rest ih =>
    rcases findClosing_cons start depth l offset c with hclosed | ⟨depth', hgo⟩
    · rw [hclosed] at h
      cases h
      exact ⟨[c], rest, rfl, List.cons_ne_nil _ _, rfl, fun after => hclosed after⟩
    · rw [hgo] at h
      exact .cons (fun l => findClosing start depth' l (offset + 1)) hgo (ih h)

/-! ## The opening brace -/

/-- One character of the search for the start of a body: it ends the search without a body, or it
opens the body, or the search goes on behind it. -/
lemma findOpening_cons (l : Lexer) (offset : ℕ) (c : Char) :
    (∀ rest, findOpening l offset (c :: rest) = .absent)
      ∨ (∀ rest, findOpening l offset (c :: rest)
        = findClosing offset 0 (l.next c rest.head?) (offset + 1) rest)
      ∨ ∀ rest, findOpening l offset (c :: rest)
        = findOpening (l.next c rest.head?) (offset + 1) rest := by
  by_cases hend : l.region = .code ∧ c = ';'
  · left
    intro rest
    rw [findOpening]
    exact if_pos hend
  · right
    by_cases hopen : l.region = .code ∧ c = '{'
    · left
      intro rest
      rw [findOpening]
      exact (if_neg hend).trans (if_pos hopen)
    · right
      intro rest
      rw [findOpening]
      exact (if_neg hend).trans (if_neg hopen)

lemma foundWithin_of_findOpening (h : findOpening l offset text = .closed start stop) :
    FoundWithin (findOpening l offset) offset text start stop := by
  induction text generalizing l offset with
  | nil => cases h
  | cons c rest ih =>
    rcases findOpening_cons l offset c with habsent | hclosing | hopening
    · rw [habsent] at h
      cases h
    · rw [hclosing] at h
      have hlater := foundWithin_of_findClosing h
      exact .cons (fun l => findClosing offset 0 l (offset + 1)) hclosing hlater
    · rw [hopening] at h
      exact .cons (fun l => findOpening l (offset + 1)) hopening (ih h)

/-! ## The whole search -/

/-- A body with an end is found in the text up to that end. -/
lemma foundWithin_of_find {offset : ℤ} (h : find text offset = .closed start stop) :
    FoundWithin (find · offset) 0 text start stop := by
  obtain ⟨front, rest, hdrop, hne, rfl, hfound⟩ := foundWithin_of_findOpening h
  have hlt : offset.toNat < text.length := by
    by_contra hle
    rw [List.drop_eq_nil_of_le (by omega)] at hdrop
    exact hne (List.append_eq_nil_iff.1 hdrop.symm).1
  have hlength : (text.take offset.toNat).length = offset.toNat :=
    List.length_take_of_le (Nat.le_of_lt hlt)
  refine ⟨text.take offset.toNat ++ front, rest, ?_, ?_, ?_, fun after => ?_⟩
  · rw [List.append_assoc, ← hdrop, List.take_append_drop]
  · exact List.append_ne_nil_of_right_ne_nil _ hne
  · rw [List.length_append, hlength, Nat.zero_add]
  · -- what stands before the offset tells whether the first character is escaped
    dsimp only
    rw [find, List.append_assoc, List.take_left' hlength, List.drop_left' hlength]
    exact hfound after

/-- Text behind a body with an end makes no difference to it. -/
lemma find_append {offset : ℤ} (h : find text offset = .closed start stop) (after : Text) :
    find (text ++ after) offset = .closed start stop := by
  obtain ⟨front, rest, rfl, -, -, hfound⟩ := foundWithin_of_find h
  rw [List.append_assoc]
  exact hfound (rest ++ after)

/-! ## Text in front -/

/-- The same body in a text with some number of characters more in front. -/
def shift (n : ℕ) : Body → Body
  | absent => absent
  | unclosed start => unclosed (n + start)
  | closed start stop => closed (n + start) (n + stop)

@[simp]
lemma start?_shift (n : ℕ) (body : Body) : (body.shift n).start? = body.start?.map (n + ·) := by
  cases body <;> rfl

@[simp]
lemma stop?_shift (n : ℕ) (body : Body) : (body.shift n).stop? = body.stop?.map (n + ·) := by
  cases body <;> rfl

/-- The search for the end of a body counts offsets and does not look at them. -/
lemma findClosing_shift (n start depth : ℕ) (l : Lexer) (offset : ℕ) (text : Text) :
    findClosing (n + start) depth l (n + offset) text
      = (findClosing start depth l offset text).shift n := by
  induction text generalizing depth l offset with
  | nil => rfl
  | cons c rest ih =>
    have hrest (depth : ℕ) := ih depth (l.next c rest.head?) (offset + 1)
    rw [findClosing.eq_def, findClosing.eq_def start]
    dsimp only
    by_cases hopen : l.region = .code ∧ c = '{'
    · rw [if_pos hopen, if_pos hopen]
      exact hrest (depth + 1)
    · rw [if_neg hopen, if_neg hopen]
      by_cases hclose : l.region = .code ∧ c = '}'
      · rw [if_pos hclose, if_pos hclose]
        rcases depth with - | depth
        · rfl
        · exact hrest depth
      · rw [if_neg hclose, if_neg hclose]
        exact hrest depth

/-- So does the search for its start. -/
lemma findOpening_shift (n : ℕ) (l : Lexer) (offset : ℕ) (text : Text) :
    findOpening l (n + offset) text = (findOpening l offset text).shift n := by
  induction text generalizing l offset with
  | nil => rfl
  | cons c rest ih =>
    rw [findOpening, findOpening]
    by_cases hend : l.region = .code ∧ c = ';'
    · rw [if_pos hend, if_pos hend]
      rfl
    · rw [if_neg hend, if_neg hend]
      by_cases hopen : l.region = .code ∧ c = '{'
      · rw [if_pos hopen, if_pos hopen]
        exact findClosing_shift n offset 0 _ (offset + 1) rest
      · rw [if_neg hopen, if_neg hopen]
        exact ih _ (offset + 1)

/-- Text in front that ends in an even number of backslashes does not change how the lexer enters
the text behind it. -/
lemma entering_append {front : Text} (h : Source.trailingBackslashes front % 2 = 0)
    (before : Text) : Lexer.entering (front ++ before) = Lexer.entering before := by
  have hfront : front.foldl Lexer.escapes false = false := by
    rw [Source.foldl_escapes, h]
    rfl
  rw [Lexer.entering, List.foldl_append, hfront]
  rfl

lemma find_append_left {front : Text} (h : Source.trailingBackslashes front % 2 = 0)
    (text : Text) (offset : ℕ) :
    find (front ++ text) (front.length + offset : ℕ) = (find text offset).shift front.length := by
  rw [find, find, Int.toNat_natCast, Int.toNat_natCast, List.take_length_add_append,
    List.drop_length_add_append]
  -- the lexer reads what stands before the offset for the backslashes at its end only
  rw [entering_append h]
  exact findOpening_shift _ _ _ _

/-- The search for a body is local. What comes behind the end of the body makes no difference, and
text in front that leaves the first character unescaped moves the body and changes nothing else. -/
theorem find_isLocal :
    (∀ (text : Text) (offset : ℤ) (start stop : ℕ), find text offset = .closed start stop →
        ∀ after, find (text.take stop ++ after) offset = .closed start stop)
      ∧ ∀ (front text : Text) (offset : ℕ), Source.trailingBackslashes front % 2 = 0 →
        let within := find text offset
        let whole := find (front ++ text) (front.length + offset : ℕ)
        whole.start? = within.start?.map (front.length + ·)
          ∧ whole.stop? = within.stop?.map (front.length + ·) := by
  constructor
  · intro text offset start stop h after
    obtain ⟨front, rest, rfl, -, hstop, hfound⟩ := foundWithin_of_find h
    rw [Nat.zero_add] at hstop
    rw [hstop, List.take_left, ← hstop]
    exact hfound after
  · intro front text offset h
    dsimp only
    rw [find_append_left h, start?_shift, stop?_shift]
    exact ⟨rfl, rfl⟩

/-- The quote behind two backslashes opens a string, as it does without them. -/
theorem find_isLocal_backslashes :
    let text := "\x27\x7b\x27 \x7b a \x7d b".toList
    let front := "f\\\\".toList
    find text 0 = .closed 4 9
      ∧ find (text.take 9 ++ "\x7d //".toList) 0 = .closed 4 9
      ∧ Source.trailingBackslashes front % 2 = 0
      ∧ (find (front ++ text) 3).start? = some 7 ∧ (find (front ++ text) 3).stop? = some 12 := by
  intro text front
  have hfind : find text 0 = .closed 4 9 := by
    decide
  have heven : Source.trailingBackslashes front % 2 = 0 := by
    decide
  obtain ⟨hafter, hfront⟩ := find_isLocal
  have hwhole : (find (front ++ text) 3).start? = (find text 0).start?.map (3 + ·)
      ∧ (find (front ++ text) 3).stop? = (find text 0).stop?.map (3 + ·) :=
    hfront front text 0 heven
  rw [hfind] at hwhole
  exact ⟨hfind, hafter text 0 4 9 hfind _, heven, hwhole⟩

/-- A single backslash in front does escape the quote, so that the brace in the string counts. -/
example : find "\\\x27\x7b\x27 \x7b a \x7d b".toList 1 = .unclosed 2 := by
  decide

end Body
end YiiNavigator
