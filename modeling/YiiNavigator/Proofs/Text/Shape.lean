import YiiNavigator.Proofs.Text.Reader

/-!
# Shapes of what is read

Most readers do not look ahead: whether such a reader accepts the front part of a text depends on
that part alone (`Accepts`). The shape of a reader that is put together from others is told by
their shapes, and it says both what the reader accepts and that it accepts nothing else.

The occurrences of such a reader stay where they are when the text goes on behind its end
(`Accepts.occurrences_append`).
-/

namespace YiiNavigator
namespace Reader

variable {α β : Type}

/-- Whether a reader accepts the texts that begin with a part of a given shape, for each value one,
whatever comes behind that part. -/
def Accepts (r : Reader α) (shape : α → Text → Prop) : Prop :=
  ∀ text a n, r text = some (a, n)
    ↔ ∃ front rest, text = front ++ rest ∧ shape a front ∧ n = front.length

variable {r : Reader α} {next : α → Reader β} {shape : α → Text → Prop}
  {shapes : α → β → Text → Prop} {text : Text} {a : α} {n : ℕ}

/-- What is accepted is accepted as well in front of more text. -/
lemma Accepts.read_append (h : Accepts r shape) (hread : r text = some (a, n)) (after : Text) :
    r (text ++ after) = some (a, n) := by
  obtain ⟨front, rest, rfl, hshape, rfl⟩ := (h _ _ _).1 hread
  exact (h _ _ _).2 ⟨front, rest ++ after, List.append_assoc _ _ _, hshape, rfl⟩

/-- What is accepted within the front part of a text is accepted in that part alone. -/
lemma Accepts.read_of_append (h : Accepts r shape) {after : Text}
    (hread : r (text ++ after) = some (a, n)) (hn : n ≤ text.length) : r text = some (a, n) := by
  obtain ⟨front, rest, htext, hshape, rfl⟩ := (h _ _ _).1 hread
  have hprefix : front <+: text ++ after := ⟨rest, htext.symm⟩
  obtain ⟨rest, rfl⟩ := List.prefix_of_prefix_length_le hprefix (List.prefix_append _ _) hn
  exact (h _ _ _).2 ⟨front, rest, rfl, hshape, rfl⟩

lemma Accepts.congr (h : Accepts r shape) {shape' : α → Text → Prop}
    (hshape : ∀ a front, shape a front ↔ shape' a front) : Accepts r shape' := by
  intro text a n
  rw [h]
  simp only [hshape]

lemma accepts_pure (a : α) : Accepts (pure a : Reader α) fun b front => b = a ∧ front = [] := by
  intro text b n
  rw [pure_eq_some_iff]
  constructor
  · intro h
    exact ⟨[], text, rfl, ⟨h.1, rfl⟩, h.2⟩
  · intro h
    obtain ⟨front, rest, -, ⟨hb, rfl⟩, hn⟩ := h
    exact ⟨hb, hn⟩

lemma accepts_word (w : Text) : Accepts (word w) fun _ front => front = w := by
  intro text a n
  rw [word_eq_some_iff]
  constructor
  · intro h
    obtain ⟨⟨rest, rfl⟩, hn⟩ := h
    exact ⟨w, rest, rfl, rfl, hn⟩
  · intro h
    obtain ⟨front, rest, rfl, rfl, hn⟩ := h
    exact ⟨List.prefix_append _ _, hn⟩

/-- Two readers in sequence accept the parts of the one shape followed by those of the other. -/
lemma Accepts.bind (h : Accepts r shape) (hnext : ∀ a, Accepts (next a) (shapes a)) :
    Accepts (r >>= next) fun b front =>
      ∃ a first second, front = first ++ second ∧ shape a first ∧ shapes a b second := by
  intro text b n
  rw [bind_eq_some_iff]
  constructor
  · intro hread
    obtain ⟨a, k, m, hfirst, hsecond, rfl⟩ := hread
    obtain ⟨first, rest, rfl, hshape, rfl⟩ := (h _ _ _).1 hfirst
    rw [List.drop_left] at hsecond
    obtain ⟨second, rest, rfl, hshapes, rfl⟩ := (hnext a _ _ _).1 hsecond
    exact ⟨first ++ second, rest, (List.append_assoc _ _ _).symm,
      ⟨a, first, second, rfl, hshape, hshapes⟩, List.length_append.symm⟩
  · intro hread
    obtain ⟨front, rest, rfl, ⟨a, first, second, rfl, hshape, hshapes⟩, rfl⟩ := hread
    refine ⟨a, first.length, second.length, ?_, ?_, List.length_append⟩
    · exact (h _ _ _).2 ⟨first, second ++ rest, List.append_assoc _ _ _, hshape, rfl⟩
    · rw [List.append_assoc, List.drop_left]
      exact (hnext a _ _ _).2 ⟨second, rest, rfl, hshapes, rfl⟩

/-- Either of two readers, the shape of the second leaving no room for the first. -/
lemma Accepts.orElse {s : Reader α} {shape' : α → Text → Prop} (h : Accepts r shape)
    (hs : Accepts s shape')
    (hapart : ∀ a front rest, shape' a front → r (front ++ rest) = none) :
    Accepts (Reader.orElse r s) fun a front => shape a front ∨ shape' a front := by
  intro text a n
  unfold Reader.orElse
  constructor
  · intro hread
    split at hread
    · rename_i result hfirst
      obtain ⟨front, rest, htext, hshape, hn⟩ := (h _ _ _).1 (hfirst.trans hread)
      exact ⟨front, rest, htext, Or.inl hshape, hn⟩
    · obtain ⟨front, rest, htext, hshape, hn⟩ := (hs _ _ _).1 hread
      exact ⟨front, rest, htext, Or.inr hshape, hn⟩
  · intro hread
    obtain ⟨front, rest, rfl, hshape | hshape, hn⟩ := hread
    · rw [(h _ a n).2 ⟨front, rest, rfl, hshape, hn⟩]
    · rw [hapart a front rest hshape]
      exact (hs _ a n).2 ⟨front, rest, rfl, hshape, hn⟩

/-- Blanks are accepted in front of a part that does not begin with one. -/
lemma Accepts.blanks_bind (h : Accepts r shape)
    (hhead : ∀ a front rest, shape a front →
      ∀ c ∈ (front ++ rest).head?, Text.isBlank c = false) :
    Accepts (blanks >>= fun _ => r) fun a front =>
      ∃ gap part, front = gap ++ part ∧ (∀ c ∈ gap, Text.isBlank c = true) ∧ shape a part := by
  intro text a n
  rw [bind_eq_some_iff]
  constructor
  · intro hread
    obtain ⟨gap, k, m, hgap, hr, rfl⟩ := hread
    obtain ⟨hrun, rfl⟩ := run_eq_some_iff.1 hgap
    obtain ⟨rest, rfl, hblank, -⟩ := Text.takeWhile_eq_iff.1 hrun.symm
    rw [List.drop_left] at hr
    obtain ⟨part, rest, rfl, hshape, rfl⟩ := (h _ _ _).1 hr
    exact ⟨gap ++ part, rest, (List.append_assoc _ _ _).symm, ⟨gap, part, rfl, hblank, hshape⟩,
      List.length_append.symm⟩
  · intro hread
    obtain ⟨front, rest, rfl, ⟨gap, part, rfl, hblank, hshape⟩, rfl⟩ := hread
    have hrun : (gap ++ (part ++ rest)).takeWhile Text.isBlank = gap :=
      Text.takeWhile_append_of_head hblank (hhead a part rest hshape)
    rw [List.append_assoc]
    refine ⟨gap, gap.length, part.length, run_eq_some_iff.2 ⟨hrun.symm, rfl⟩, ?_,
      List.length_append⟩
    rw [List.drop_left]
    exact (h _ _ _).2 ⟨part, rest, rfl, hshape, rfl⟩

/-- A token is accepted behind any number of blanks. -/
lemma accepts_token {c : Char} {w : Text} (hc : Text.isBlank c = false) :
    Accepts (token (c :: w)) fun _ front =>
      ∃ gap part, front = gap ++ part ∧ (∀ b ∈ gap, Text.isBlank b = true) ∧ part = c :: w := by
  refine (accepts_word (c :: w)).blanks_bind ?_
  intro a front rest hfront d hd
  subst hfront
  obtain rfl : c = d := Option.some.inj hd
  exact hc

/-- A word that may be left out, in front of parts that do not begin with it. -/
lemma Accepts.optional_bind {w : Text} {next : Bool → Reader β} {shapes : Bool → β → Text → Prop}
    (hnext : ∀ b, Accepts (next b) (shapes b))
    (hapart : ∀ b front rest, shapes false b front → ¬w <+: front ++ rest) :
    Accepts (optional w >>= next) fun b front =>
      (∃ part, front = w ++ part ∧ shapes true b part) ∨ shapes false b front := by
  intro text b n
  rw [bind_eq_some_iff]
  constructor
  · intro hread
    obtain ⟨found, k, m, hword, hr, rfl⟩ := hread
    obtain ⟨part, rest, hdrop, hshape, rfl⟩ := (hnext found _ _ _).1 hr
    by_cases hw : w <+: text
    · rw [optional, if_pos (List.isPrefixOf_iff_prefix.2 hw)] at hword
      obtain ⟨rfl, rfl⟩ : true = found ∧ w.length = k := by simpa using hword
      obtain ⟨tail, rfl⟩ := hw
      rw [List.drop_left] at hdrop
      subst hdrop
      exact ⟨w ++ part, rest, (List.append_assoc _ _ _).symm, Or.inl ⟨part, rfl, hshape⟩,
        List.length_append.symm⟩
    · rw [optional, if_neg (fun h => hw (List.isPrefixOf_iff_prefix.1 h))] at hword
      obtain ⟨rfl, rfl⟩ : false = found ∧ 0 = k := by simpa using hword
      exact ⟨part, rest, hdrop, Or.inr hshape, Nat.zero_add _⟩
  · intro hread
    obtain ⟨front, rest, rfl, ⟨part, rfl, hshape⟩ | hshape, rfl⟩ := hread
    · refine ⟨true, w.length, part.length, ?_, ?_, List.length_append⟩
      · rw [optional, if_pos (List.isPrefixOf_iff_prefix.2 (by simp))]
      · rw [List.append_assoc, List.drop_left]
        exact (hnext true _ _ _).2 ⟨part, rest, rfl, hshape, rfl⟩
    · refine ⟨false, 0, front.length, ?_, ?_, (Nat.zero_add _).symm⟩
      · rw [optional, if_neg (fun h => hapart b front rest hshape (List.isPrefixOf_iff_prefix.1 h))]
      · exact (hnext false _ _ _).2 ⟨front, rest, rfl, hshape, rfl⟩

/-! ## Occurrences in front of more text -/

/-- Whether nothing that a reader accepts begins inside of something else that it accepts. -/
def IsApart (r : Reader α) : Prop :=
  ∀ text k a n b m, r text = some (a, n) → r (text.drop k) = some (b, m) → 0 < k → n ≤ k

/-- There are no occurrences behind a place where what is accepted goes on beyond the text. -/
lemma Accepts.occurrencesFrom_eq_nil (h : Accepts r shape) (hapart : IsApart r) {c : Char}
    {after : Text} (hseam : r (c :: text ++ after) = some (a, n)) (hn : (c :: text).length < n)
    (offset skip : ℕ) : occurrencesFrom r offset skip text = [] := by
  rw [List.eq_nil_iff_forall_not_mem]
  intro o ho
  obtain ⟨k, -, hread⟩ := read_of_mem_occurrencesFrom ho
  obtain ⟨front, back, rfl, hback⟩ : ∃ front back, text = front ++ back ∧ text.drop k = back :=
    ⟨text.take k, text.drop k, (List.take_append_drop k text).symm, rfl⟩
  rw [hback] at hread
  -- the occurrence would be accepted inside of what is accepted here
  have hdrop : (c :: (front ++ back) ++ after).drop (front.length + 1) = back ++ after := by
    rw [List.cons_append, List.drop_succ_cons, List.append_assoc, List.drop_left]
  have hinside := h.read_append hread after
  rw [← hdrop] at hinside
  have hle := hapart _ _ _ _ _ _ hseam hinside (Nat.succ_pos _)
  rw [List.length_cons, List.length_append] at hn
  omega

lemma Accepts.occurrencesFrom_append (h : Accepts r shape) (hapart : IsApart r)
    (text after : Text) (offset skip : ℕ) :
    occurrencesFrom r offset skip text <+: occurrencesFrom r offset skip (text ++ after) := by
  induction text generalizing offset skip with
  | nil => exact List.nil_prefix
  | cons c rest ih =>
    rcases skip with - | skip
    · rw [List.cons_append, occurrencesFrom, occurrencesFrom, ← List.cons_append]
      rcases hread : r (c :: rest) with - | ⟨a, n⟩
      · rcases hseam : r (c :: rest ++ after) with - | ⟨a, n⟩
        · exact ih (offset + 1) 0
        · -- what is accepted here only in front of more text goes on beyond this text
          have hn : (c :: rest).length < n := by
            by_contra hle
            rw [h.read_of_append hseam (by omega)] at hread
            cases hread
          rw [h.occurrencesFrom_eq_nil hapart hseam hn]
          exact List.nil_prefix
      · rw [h.read_append hread after]
        exact (List.prefix_cons_inj _).2 (ih (offset + 1) (n - 1))
    · exact ih (offset + 1) skip

/-- The occurrences in a text are the first ones in front of more text, provided that none could
begin inside of another one. -/
lemma Accepts.occurrences_append (h : Accepts r shape) (hapart : IsApart r) (text after : Text) :
    r.occurrences text <+: r.occurrences (text ++ after) :=
  h.occurrencesFrom_append hapart text after 0 0

end Reader
end YiiNavigator
