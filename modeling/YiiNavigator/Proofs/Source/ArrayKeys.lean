import YiiNavigator.Proofs.Text.Literal
import YiiNavigator.Source.ArrayKeys

/-!
# Where the keys of an array literal stand

The scan of an array literal collects the characters of a string while it reads them. What it has
collected always stands behind the quote that opened the string (`Holds`), so that a key stands
between its quotes.
-/

namespace YiiNavigator
namespace Source

/-- Inside a string, `seen` holds what has been read since its opening quote, the last character
first. -/
def Holds (l : Lexer) (before seen : Text) : Prop :=
  ∀ mark, l.region = .quoted mark →
    Reader.isQuote mark = true ∧ ∃ front, before = front ++ mark :: seen.reverse

lemma isQuote_of_leaveCode {escaped : Bool} {c mark : Char} {following : Option Char}
    (h : Lexer.leaveCode escaped c following = .quoted mark) :
    mark = c ∧ Reader.isQuote c = true := by
  unfold Lexer.leaveCode at h
  split at h
  · next hquote =>
    cases h
    exact ⟨rfl, (Bool.and_eq_true_iff.1 hquote).1⟩
  · split at h
    · cases h
    · split at h <;> cases h

/-- A string goes on, or a quote in code opens it. -/
lemma quoted_of_next {l : Lexer} {c mark : Char} {following : Option Char}
    (h : (l.next c following).region = .quoted mark) :
    l.region = .quoted mark ∨ l.region = .code ∧ mark = c ∧ Reader.isQuote c = true := by
  simp only [Lexer.next, Lexer.regionAfter] at h
  split at h
  · next hcode => exact .inr ⟨hcode, isQuote_of_leaveCode h⟩
  · next mark' hmark =>
    split at h
    · cases h
    · exact .inl (hmark.trans h)
  · split at h <;> cases h
  · cases h
  · split at h <;> cases h
  · cases h

/-- A string that is opened has nothing in it yet. -/
lemma Holds.of_code {l : Lexer} (h : l.region = .code) (before : Text) (c : Char)
    (following : Option Char) : Holds (l.next c following) (before ++ [c]) [] := by
  intro mark hmark
  rcases quoted_of_next hmark with hquoted | ⟨-, rfl, hquote⟩
  · rw [h] at hquoted
    cases hquoted
  · exact ⟨hquote, before, rfl⟩

/-- A string that goes on has one more character in it. -/
lemma Holds.of_quoted {l : Lexer} {before seen : Text} (h : Holds l before seen) {mark : Char}
    (hmark : l.region = .quoted mark) (c : Char) (following : Option Char) :
    Holds (l.next c following) (before ++ [c]) (c :: seen) := by
  intro mark' hmark'
  rcases quoted_of_next hmark' with hquoted | ⟨hcode, -⟩
  · obtain ⟨hquote, front, rfl⟩ := h mark' hquoted
    exact ⟨hquote, front, by simp⟩
  · rw [hmark] at hcode
    cases hcode

/-- A comment holds nothing. -/
lemma Holds.of_comment {l : Lexer} (hcode : l.region ≠ .code)
    (hquoted : ∀ mark, l.region ≠ .quoted mark) (before : Text) (c : Char)
    (following : Option Char) : Holds (l.next c following) before [] := by
  intro mark hmark
  rcases quoted_of_next hmark with hstring | ⟨hopen, -⟩
  · exact absurd hstring (hquoted mark)
  · exact absurd hopen hcode

/-- The quote that closes a string is the one that opened it. -/
lemma eq_mark_of_next_code {l : Lexer} {mark c : Char} {following : Option Char}
    (hmark : l.region = .quoted mark) (h : (l.next c following).region = .code) : c = mark := by
  simp only [Lexer.next, Lexer.regionAfter, hmark] at h
  split at h
  · next hclose =>
    simp only [Bool.and_eq_true, decide_eq_true_eq] at hclose
    exact hclose.1
  · cases h

/-- Every key that the scan finds from some offset on stands between quotes in what has been read
and what follows. -/
lemma quotedAt_of_mem_keysFrom {limit : ℕ} {l : Lexer} {depth : ℕ} {before seen rest : Text}
    {key : Literal} (h : Holds l before seen)
    (hkey : key ∈ keysFrom limit l depth seen before.length rest) :
    QuotedAt (before ++ rest) key.offset key.name := by
  -- what has been read moves in front, so that the offsets stay those of the whole text
  induction rest generalizing l depth before seen with
  | nil => cases hkey
  | cons c rest ih =>
    have hnext {l' : Lexer} {depth : ℕ} {seen : Text} (h : Holds l' (before ++ [c]) seen)
        (hkey : key ∈ keysFrom limit l' depth seen (before.length + 1) rest) :
        QuotedAt (before ++ c :: rest) key.offset key.name := by
      have hlength : before.length + 1 = (before ++ [c]).length := by simp
      rw [hlength] at hkey
      rw [List.append_cons]
      exact ih h hkey
    rw [keysFrom.eq_def] at hkey
    dsimp only at hkey
    generalize (if before.length + 1 < limit then rest.head? else none) = following at hkey
    split at hkey
    · cases hkey
    split at hkey
    · next hcode =>
      have hopen := Holds.of_code hcode before c following
      split at hkey
      · exact hnext hopen hkey
      · split at hkey
        · split at hkey
          · cases hkey
          · exact hnext hopen hkey
        · exact hnext hopen hkey
    · next mark hmark =>
      split at hkey
      · next hclose =>
        have hafter : key ∈ keysFrom limit (l.next c following) depth [] (before.length + 1) rest →
            QuotedAt (before ++ c :: rest) key.offset key.name :=
          hnext (fun mark' hmark' => by rw [hclose] at hmark'; cases hmark')
        split at hkey
        · rcases List.mem_cons.1 hkey with rfl | hkey
          · -- the string that ends here is the key
            obtain ⟨hquote, front, rfl⟩ := h mark hmark
            have hsame := eq_mark_of_next_code hmark hclose
            subst hsame
            exact ⟨front, c, rest, hquote, by simp, by simp; omega⟩
          · exact hafter hkey
        · exact hafter hkey
      · exact hnext (h.of_quoted hmark c following) hkey
    · next hcode hquoted =>
      exact hnext (Holds.of_comment hcode hquoted _ _ _) hkey

lemma quotedAt_of_mem_arrayKeys {text : Text} {start stop : ℤ} {key : Literal}
    (h : key ∈ arrayKeys text start stop) : QuotedAt text key.offset key.name := by
  obtain ⟨limit, start, h⟩ : ∃ (limit start : ℕ), key ∈ keysFrom limit
      (.entering (text.take start)) 0 [] start (text.drop start) := ⟨_, _, h⟩
  have hstart : start ≤ text.length := by
    rw [← Nat.not_lt]
    intro hlt
    rw [List.drop_eq_nil_of_le (Nat.le_of_lt hlt)] at h
    cases h
  have hlength : (text.take start).length = start := by
    rw [List.length_take, Nat.min_eq_left hstart]
  have hentering : Holds (.entering (text.take start)) (text.take start) [] := nofun
  have hkey : key ∈ keysFrom limit (.entering (text.take start)) 0 [] (text.take start).length
      (text.drop start) := by rwa [hlength]
  have := quotedAt_of_mem_keysFrom hentering hkey
  rwa [List.take_append_drop] at this

end Source
end YiiNavigator
