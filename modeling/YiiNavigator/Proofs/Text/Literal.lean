import YiiNavigator.Proofs.Text.Shape
import Mathlib.Data.Int.Notation

/-!
# Where literals stand

A name found by a reader stands in the text that was read, between two quotes of one kind
(`QuotedAt`). This holds of the literal itself, of every reader that ends with one, and of all
occurrences of such a reader; and what stands in a part of a text stands in the whole.
-/

namespace YiiNavigator

/-! ## Names between quotes -/

/-- A name stands in a text from an offset on, between two equal quotes. -/
def QuotedAt (text : Text) (offset : ℕ) (name : Text) : Prop :=
  ∃ before mark after, Reader.isQuote mark = true
    ∧ text = before ++ mark :: (name ++ mark :: after) ∧ offset = before.length + 1

namespace QuotedAt

variable {text name : Text} {offset : ℕ}

lemma append_right (h : QuotedAt text offset name) (rest : Text) :
    QuotedAt (text ++ rest) offset name := by
  obtain ⟨before, mark, after, hmark, rfl, rfl⟩ := h
  exact ⟨before, mark, after ++ rest, hmark, by simp, rfl⟩

lemma append_left (h : QuotedAt text offset name) (front : Text) :
    QuotedAt (front ++ text) (front.length + offset) name := by
  obtain ⟨before, mark, after, hmark, rfl, rfl⟩ := h
  exact ⟨front ++ before, mark, after, hmark, by simp, by simp; omega⟩

lemma of_take {n : ℕ} (h : QuotedAt (text.take n) offset name) : QuotedAt text offset name := by
  have := h.append_right (text.drop n)
  rwa [List.take_append_drop] at this

lemma ne_nil (h : QuotedAt text offset name) : text ≠ [] := by
  obtain ⟨before, mark, after, -, rfl, -⟩ := h
  simp

lemma of_drop {n : ℕ} (h : QuotedAt (text.drop n) offset name) :
    QuotedAt text (n + offset) name := by
  have hn : n < text.length := by
    rw [← Nat.not_le, ← List.drop_eq_nil_iff]
    exact h.ne_nil
  have := h.append_left (text.take n)
  rwa [List.take_append_drop, List.length_take, Nat.min_eq_left (Nat.le_of_lt hn)] at this

lemma of_slice {start : ℕ} {stop : ℤ} (h : QuotedAt (text.slice start stop) offset name) :
    QuotedAt text (start + offset) name := by
  have hstart : start ≤ text.length := by
    rw [← Nat.not_lt]
    intro hlt
    refine h.ne_nil ?_
    rw [Text.slice, Text.bound_natCast, Nat.min_eq_right (Nat.le_of_lt hlt)]
    exact List.drop_eq_nil_of_le (List.length_take_le' _ _)
  rw [Text.slice, Text.bound_natCast, Nat.min_eq_left hstart] at h
  exact h.of_drop.of_take

/-- The offsets of the name and of its end lie inside the text, with the quotes around them. -/
lemma bounds (h : QuotedAt text offset name) :
    1 ≤ offset ∧ offset + name.length < text.length
      ∧ (∃ mark, Reader.isQuote mark = true ∧ text[offset - 1]? = some mark
        ∧ text[offset + name.length]? = some mark)
      ∧ (text.take (offset + name.length)).drop offset = name := by
  obtain ⟨before, mark, after, hmark, rfl, rfl⟩ := h
  have hsplit : before ++ mark :: (name ++ mark :: after)
      = (before ++ mark :: name) ++ mark :: after := by simp
  have hlength : (before ++ mark :: name).length = before.length + 1 + name.length := by
    rw [List.length_append, List.length_cons]
    omega
  refine ⟨by omega, by simp; omega, ⟨mark, hmark, by simp, ?_⟩, ?_⟩
  · rw [hsplit, ← hlength]
    simp
  · rw [hsplit, List.take_left' hlength, List.append_cons, List.drop_left' (by simp)]

end QuotedAt

namespace Reader

variable {α β : Type}

/-! ## Readers that end with a literal -/

/-- A literal is a name without quotes, not empty, between two equal quotes. -/
lemma accepts_literal : Accepts literal fun name front =>
    ∃ mark, front = mark :: (name ++ [mark]) ∧ isQuote mark = true ∧ name ≠ []
      ∧ ∀ c ∈ name, isQuote c = false := by
  intro text name n
  constructor
  · intro h
    obtain ⟨mark, _, _, hopen, hbody, rfl⟩ := bind_eq_some_iff.1 h
    obtain ⟨rest, rfl, hquote, rfl⟩ := one_eq_some_iff.1 hopen
    obtain ⟨taken, _, _, htaken, hclose, rfl⟩ := bind_eq_some_iff.1 hbody
    obtain ⟨hrun, hne, rfl⟩ := run1_eq_some_iff.1 htaken
    rw [List.drop_one, List.tail_cons] at hrun hclose
    obtain ⟨rest, rfl, hname, -⟩ := Text.takeWhile_eq_iff.1 hrun.symm
    rw [List.drop_left] at hclose
    obtain ⟨mark', _, _, hmark', hreturn, rfl⟩ := bind_eq_some_iff.1 hclose
    obtain ⟨after, rfl, hsame, rfl⟩ := one_eq_some_iff.1 hmark'
    obtain ⟨rfl, rfl⟩ := pure_eq_some_iff.1 hreturn
    obtain rfl : mark' = mark := beq_iff_eq.1 hsame
    refine ⟨mark' :: (name ++ [mark']), after, by simp, ⟨mark', rfl, hquote, hne, ?_⟩, ?_⟩
    · intro c hc
      simpa using hname c hc
    · simp
      omega
  · intro h
    obtain ⟨front, after, rfl, ⟨mark, rfl, hquote, hne, hname⟩, rfl⟩ := h
    have hrun : (name ++ ([mark] ++ after)).takeWhile (!isQuote ·) = name := by
      refine Text.takeWhile_append_of_head ?_ ?_
      · intro c hc
        simpa using hname c hc
      · intro c hc
        obtain rfl : mark = c := Option.some.inj hc
        simpa using hquote
    have hclose : one (· == mark) ([mark] ++ after) = some (mark, 1) :=
      one_eq_some_iff.2 ⟨after, rfl, beq_self_eq_true mark, rfl⟩
    rw [List.cons_append, List.append_assoc]
    -- the closing quote is read last
    refine bind_eq_some_iff.2 ⟨mark, 1, name.length + 1, ?_, ?_, ?_⟩
    · exact one_eq_some_iff.2 ⟨_, rfl, hquote, rfl⟩
    · refine bind_eq_some_iff.2 ⟨name, name.length, 1, ?_, ?_, rfl⟩
      · exact run1_eq_some_iff.2 ⟨hrun.symm, hne, rfl⟩
      · rw [List.drop_one, List.tail_cons, List.drop_left]
        exact bind_eq_some_iff.2 ⟨mark, 1, 0, hclose, rfl, rfl⟩
    · simp
      omega

/-- Whatever a reader accepts ends with a name between quotes. -/
def EndsInLiteral (r : Reader α) (name : α → Text) : Prop :=
  ∀ text a n, r text = some (a, n) →
    ∃ before mark after, isQuote mark = true
      ∧ text = before ++ mark :: (name a ++ mark :: after)
      ∧ n = before.length + (name a).length + 2

lemma literal_endsInLiteral : EndsInLiteral literal id := by
  intro text name n h
  obtain ⟨front, after, rfl, ⟨mark, rfl, hquote, -⟩, rfl⟩ := (accepts_literal _ _ _).1 h
  exact ⟨[], mark, after, hquote, by simp, by simp⟩

/-- Nothing that comes before the literal matters. -/
lemma EndsInLiteral.bind {r : Reader β} {next : β → Reader α} {name : α → Text}
    (h : ∀ b, EndsInLiteral (next b) name) : EndsInLiteral (r >>= next) name := by
  intro text a n hread
  obtain ⟨b, k, m, -, hnext, rfl⟩ := bind_eq_some_iff.1 hread
  obtain ⟨before, mark, after, hmark, hdrop, rfl⟩ := h b _ a m hnext
  have hk : k < text.length := by
    rw [← Nat.not_le, ← List.drop_eq_nil_iff, hdrop]
    simp
  refine ⟨text.take k ++ before, mark, after, hmark, ?_, ?_⟩
  · rw [List.append_assoc, ← hdrop, List.take_append_drop]
  · rw [List.length_append, List.length_take, Nat.min_eq_left (Nat.le_of_lt hk)]
    omega

/-- The value may be changed after the literal, as long as it keeps the name. -/
lemma EndsInLiteral.bind_pure {r : Reader β} {f : β → α} {name : α → Text}
    (h : EndsInLiteral r (name ∘ f)) : EndsInLiteral (r >>= fun b => pure (f b)) name := by
  intro text a n hread
  obtain ⟨b, k, m, hr, hreturn, rfl⟩ := bind_eq_some_iff.1 hread
  obtain ⟨rfl, rfl⟩ := pure_eq_some_iff.1 hreturn
  exact h text b k hr

/-! ## Occurrences -/

/-- The literals at the ends of the occurrences in a text stand one behind the other, the closing
quote of each before the opening quote of the next. -/
lemma pairwise_occurrences_quotes {r : Reader α} {name : α → Text} (hr : EndsInLiteral r name)
    (text : Text) : (r.occurrences text).Pairwise fun o o' =>
      (Literal.atEnd o (name o.value)).offset + (name o.value).length + 1
        < (Literal.atEnd o' (name o'.value)).offset := by
  -- the literal of an occurrence lies inside of it, with its quotes
  have hinside : ∀ o ∈ r.occurrences text,
      o.start < (Literal.atEnd o (name o.value)).offset
        ∧ (Literal.atEnd o (name o.value)).offset + (name o.value).length + 1 = o.stop := by
    intro o ho
    obtain ⟨k, -, hread⟩ := read_of_mem_occurrencesFrom ho
    obtain ⟨before, mark, after, -, -, hlength⟩ := hr _ _ _ hread
    simp only [Literal.atEnd, Occurrence.stop]
    omega
  refine (pairwise_occurrencesFrom r 0 0 text).imp_of_mem fun {o o'} ho ho' hstop => ?_
  have := hinside o ho
  have := hinside o' ho'
  omega

/-- The names at the ends of the occurrences in a text have offsets that increase. -/
lemma pairwise_occurrences {r : Reader α} {name : α → Text} (hr : EndsInLiteral r name)
    (text : Text) : (r.occurrences text).Pairwise fun o o' =>
      (Literal.atEnd o (name o.value)).offset < (Literal.atEnd o' (name o'.value)).offset := by
  refine (pairwise_occurrences_quotes hr text).imp fun {o o'} hlt => ?_
  omega

lemma quotedAt_of_mem_occurrences {r : Reader α} {name : α → Text} (hr : EndsInLiteral r name)
    {text : Text} {o : Occurrence α} (h : o ∈ r.occurrences text) :
    QuotedAt text (Literal.atEnd o (name o.value)).offset (name o.value) := by
  obtain ⟨k, hstart, hread⟩ := read_of_mem_occurrencesFrom h
  obtain ⟨before, mark, after, hmark, htext, hlength⟩ := hr _ _ _ hread
  have hoffset : (Literal.atEnd o (name o.value)).offset = k + (before.length + 1) := by
    simp only [Literal.atEnd, Occurrence.stop]
    omega
  rw [hoffset]
  exact QuotedAt.of_drop ⟨before, mark, after, hmark, htext, rfl⟩

end Reader
end YiiNavigator
