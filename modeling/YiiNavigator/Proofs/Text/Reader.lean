import YiiNavigator.Text.Reader
import Mathlib.Data.List.Basic

/-!
# What readers accept

One equation for each reader says which texts it accepts and what it makes of them. The occurrences
of a reader are told by it too: it accepts at each of them, they do not overlap, and wherever it
accepts there is an occurrence, or else the place lies inside of one (`exists_occurrence`).
-/

namespace YiiNavigator

/-! ## Runs of a class of characters -/

namespace Text

variable {p : Char → Bool} {front rest front' rest' : Text}

/-- A run of a class of characters ends where the text goes on with another character. -/
lemma takeWhile_append_of_head (hfront : ∀ c ∈ front, p c = true)
    (hrest : ∀ c ∈ rest.head?, p c = false) : (front ++ rest).takeWhile p = front := by
  rw [List.takeWhile_append_of_pos hfront]
  rcases rest with - | ⟨c, rest⟩
  · rw [List.takeWhile_nil, List.append_nil]
  · have hc : ¬p c = true := by
      rw [hrest c rfl]
      exact Bool.false_ne_true
    rw [List.takeWhile_cons_of_neg hc, List.append_nil]

/-- The longest run of a class of characters at the front of a text is the front part of that class
behind which another character comes, or none. -/
lemma takeWhile_eq_iff {text : Text} : text.takeWhile p = front
    ↔ ∃ rest, text = front ++ rest ∧ (∀ c ∈ front, p c = true)
      ∧ ∀ c ∈ rest.head?, p c = false := by
  constructor
  · intro h
    refine ⟨text.dropWhile p, ?_, ?_, ?_⟩
    · rw [← h, List.takeWhile_append_dropWhile]
    · rw [← h]
      exact List.all_eq_true.1 List.all_takeWhile
    · intro c hc
      have hhead := List.head?_dropWhile_not p text
      rw [Option.mem_def.1 hc] at hhead
      exact hhead
  · intro h
    obtain ⟨rest, rfl, hfront, hrest⟩ := h
    exact takeWhile_append_of_head hfront hrest

/-- A text has only one longest run of a class of characters at its front. -/
lemma append_inj_of_head (hfront : ∀ c ∈ front, p c = true) (hrest : ∀ c ∈ rest.head?, p c = false)
    (hfront' : ∀ c ∈ front', p c = true) (hrest' : ∀ c ∈ rest'.head?, p c = false)
    (h : front ++ rest = front' ++ rest') : front = front' ∧ rest = rest' := by
  have heq : front = front' := by
    rw [← takeWhile_append_of_head hfront hrest, h, takeWhile_append_of_head hfront' hrest']
  subst heq
  exact ⟨rfl, List.append_cancel_left h⟩

end Text

namespace Reader

variable {α β : Type}

/-! ## Single readers -/

lemma isQuote_iff {c : Char} : isQuote c = true ↔ c = '\x27' ∨ c = '\x22' := by
  simp [isQuote]

lemma one_eq_some_iff {p : Char → Bool} {text : Text} {c : Char} {n : ℕ} :
    one p text = some (c, n) ↔ ∃ rest, text = c :: rest ∧ p c = true ∧ n = 1 := by
  rcases text with - | ⟨d, rest⟩
  · simp [one]
  · by_cases h : p d = true
    · simp only [one, h, if_true, Option.some.injEq, Prod.mk.injEq, List.cons.injEq]
      constructor
      · rintro ⟨rfl, rfl⟩
        exact ⟨rest, ⟨rfl, rfl⟩, h, rfl⟩
      · rintro ⟨_, ⟨rfl, rfl⟩, -, rfl⟩
        exact ⟨rfl, rfl⟩
    · simp only [one, h, List.cons.injEq]
      constructor
      · nofun
      · rintro ⟨_, ⟨rfl, rfl⟩, hp, -⟩
        exact absurd hp h

lemma run1_eq_some_iff {p : Char → Bool} {text taken : Text} {n : ℕ} :
    run1 p text = some (taken, n)
      ↔ taken = text.takeWhile p ∧ taken ≠ [] ∧ n = taken.length := by
  unfold run1
  by_cases h : text.takeWhile p = []
  · simp only [h, List.isEmpty_nil, if_true]
    constructor
    · nofun
    · rintro ⟨rfl, hne, -⟩
      exact absurd rfl hne
  · have : ¬(text.takeWhile p).isEmpty = true := by simpa using h
    rw [if_neg this, Option.some.injEq, Prod.mk.injEq]
    constructor
    · rintro ⟨rfl, rfl⟩
      exact ⟨rfl, h, rfl⟩
    · rintro ⟨rfl, -, rfl⟩
      exact ⟨rfl, rfl⟩

lemma run_eq_some_iff {p : Char → Bool} {text taken : Text} {n : ℕ} :
    run p text = some (taken, n) ↔ taken = text.takeWhile p ∧ n = taken.length := by
  unfold run
  rw [Option.some.injEq, Prod.mk.injEq]
  constructor
  · rintro ⟨rfl, rfl⟩
    exact ⟨rfl, rfl⟩
  · rintro ⟨rfl, rfl⟩
    exact ⟨rfl, rfl⟩

lemma pure_eq_some_iff {a b : α} {text : Text} {n : ℕ} :
    (pure a : Reader α) text = some (b, n) ↔ b = a ∧ n = 0 := by
  change some (a, 0) = some (b, n) ↔ _
  rw [Option.some.injEq, Prod.mk.injEq]
  exact ⟨fun h => ⟨h.1.symm, h.2.symm⟩, fun h => ⟨h.1.symm, h.2.symm⟩⟩

/-- What is accepted behind blanks is accepted behind all but those that it may begin with. -/
lemma exists_of_spaced {r : Reader α} {text : Text} {a : α} {n : ℕ}
    (h : spaced r text = some (a, n)) :
    ∃ gap rest m, text = gap ++ rest ∧ gap ≠ [] ∧ (∀ c ∈ gap, Text.isBlank c = true)
      ∧ r rest = some (a, m) ∧ n = gap.length + m := by
  induction text generalizing n with
  | nil => cases h
  | cons c rest ih =>
    rw [spaced] at h
    split at h
    · rename_i hc
      split at h
      · rename_i b m hlater
        cases h
        obtain ⟨gap, after, k, rfl, -, hgap, hr, rfl⟩ := ih hlater
        refine ⟨c :: gap, after, k, rfl, List.cons_ne_nil _ _, ?_, hr, ?_⟩
        · exact List.forall_mem_cons.2 ⟨hc, hgap⟩
        · rw [List.length_cons]
          omega
      · obtain ⟨⟨b, m⟩, hr, heq⟩ := Option.map_eq_some_iff.1 h
        cases heq
        refine ⟨[c], rest, m, rfl, List.cons_ne_nil _ _, List.forall_mem_singleton.2 hc, hr, ?_⟩
        rw [List.length_singleton, Nat.add_comm]
    · cases h

/-- Behind blanks, a reader accepts what it accepts without them. -/
lemma spaced_append {r : Reader α} {gap rest : Text} {a : α} {n : ℕ} (hne : gap ≠ [])
    (hgap : ∀ c ∈ gap, Text.isBlank c = true) (hrest : ∀ c ∈ rest.head?, Text.isBlank c = false)
    (h : r rest = some (a, n)) : spaced r (gap ++ rest) = some (a, gap.length + n) := by
  induction gap with
  | nil => exact absurd rfl hne
  | cons c gap ih =>
    obtain ⟨hc, hgap⟩ := List.forall_mem_cons.1 hgap
    rw [List.cons_append, spaced, if_pos hc]
    rcases gap with - | ⟨d, gap⟩
    · -- the reader is tried here only if no more blanks can be left out
      have hnone : spaced r rest = none := by
        rcases rest with - | ⟨d, rest⟩
        · rfl
        · rw [spaced, hrest d rfl]
          rfl
      rw [List.nil_append, hnone]
      simp [h, Nat.add_comm]
    · rw [ih (List.cons_ne_nil _ _) hgap]
      simp only [List.length_cons]
      congr 2
      omega

/-! ## Occurrences -/

/-- A reader accepts at each of its occurrences. -/
lemma read_of_mem_occurrencesFrom {r : Reader α} {offset skip : ℕ} {text : Text} {o : Occurrence α}
    (h : o ∈ occurrencesFrom r offset skip text) :
    ∃ k, o.start = offset + k ∧ r (text.drop k) = some (o.value, o.length) := by
  induction text generalizing offset skip with
  | nil => cases h
  | cons c rest ih =>
    have hlater {skip : ℕ} (h : o ∈ occurrencesFrom r (offset + 1) skip rest) :
        ∃ k, o.start = offset + k ∧ r ((c :: rest).drop k) = some (o.value, o.length) := by
      obtain ⟨k, hstart, hread⟩ := ih h
      exact ⟨k + 1, by omega, hread⟩
    rcases skip with - | skip
    · rw [occurrencesFrom] at h
      cases hread : r (c :: rest) with
      | none =>
        rw [hread] at h
        exact hlater h
      | some result =>
        rw [hread] at h
        rcases List.mem_cons.1 h with rfl | h
        · exact ⟨0, rfl, hread⟩
        · exact hlater h
    · exact hlater h

/-- Occurrences lie behind what is skipped. -/
lemma le_start_of_mem_occurrencesFrom {r : Reader α} {offset skip : ℕ} {text : Text}
    {o : Occurrence α} (h : o ∈ occurrencesFrom r offset skip text) : offset + skip ≤ o.start := by
  induction text generalizing offset skip with
  | nil => cases h
  | cons c rest ih =>
    rcases skip with - | skip
    · rw [occurrencesFrom] at h
      cases hread : r (c :: rest) with
      | none =>
        rw [hread] at h
        have := ih h
        omega
      | some result =>
        rw [hread] at h
        rcases List.mem_cons.1 h with rfl | h
        · exact Nat.le_refl _
        · have := ih h
          omega
    · have := ih h
      omega

/-- Each occurrence begins at or after the ends of those before it. -/
lemma pairwise_occurrencesFrom (r : Reader α) (offset skip : ℕ) (text : Text) :
    (occurrencesFrom r offset skip text).Pairwise fun o o' => o.stop ≤ o'.start := by
  induction text generalizing offset skip with
  | nil => exact .nil
  | cons c rest ih =>
    rcases skip with - | skip
    · rw [occurrencesFrom]
      cases hread : r (c :: rest) with
      | none => exact ih _ _
      | some result =>
        -- the length of what is accepted is skipped before the next occurrence
        obtain ⟨a, n⟩ := result
        refine List.pairwise_cons.2 ⟨fun o ho => ?_, ih _ _⟩
        have hstart := le_start_of_mem_occurrencesFrom ho
        simp only [Occurrence.stop]
        omega
    · exact ih _ _

/-- Wherever a reader accepts there is an occurrence, unless the place is skipped or lies inside of
an earlier one. -/
lemma exists_occurrencesFrom {r : Reader α} {text : Text} {k : ℕ} {a : α} {n : ℕ}
    (hk : k < text.length) (h : r (text.drop k) = some (a, n)) (offset skip : ℕ) :
    k < skip ∨ ⟨offset + k, n, a⟩ ∈ occurrencesFrom r offset skip text
      ∨ ∃ o ∈ occurrencesFrom r offset skip text, o.start < offset + k ∧ offset + k < o.stop := by
  induction text generalizing k offset skip with
  | nil => exact absurd hk (Nat.not_lt_zero k)
  | cons c rest ih =>
    rcases skip with - | skip
    · rcases k with - | k
      · -- the reader accepts at once
        rw [List.drop_zero] at h
        rw [occurrencesFrom, h]
        exact .inr (.inl List.mem_cons_self)
      · rw [List.length_cons] at hk
        rw [occurrencesFrom]
        rcases hread : r (c :: rest) with - | ⟨b, m⟩
        · rcases ih (by omega) h (offset + 1) 0 with hlt | hmem | ⟨o, ho, hin⟩
          · exact absurd hlt (Nat.not_lt_zero k)
          · exact .inr (.inl (by rwa [Nat.add_right_comm] at hmem))
          · exact .inr (.inr ⟨o, ho, by omega, by omega⟩)
        · -- what an occurrence here skips lies inside of it
          rcases ih (by omega) h (offset + 1) (m - 1) with hlt | hmem | ⟨o, ho, hin⟩
          · refine .inr (.inr ⟨⟨offset, m, b⟩, List.mem_cons_self, by simp, ?_⟩)
            simp only [Occurrence.stop]
            omega
          · rw [Nat.add_right_comm] at hmem
            exact .inr (.inl (List.mem_cons_of_mem _ hmem))
          · exact .inr (.inr ⟨o, List.mem_cons_of_mem _ ho, by omega, by omega⟩)
    · rcases k with - | k
      · exact .inl (Nat.succ_pos skip)
      · rw [List.length_cons] at hk
        rw [occurrencesFrom]
        rcases ih (by omega) h (offset + 1) skip with hlt | hmem | ⟨o, ho, hin⟩
        · exact .inl (by omega)
        · exact .inr (.inl (by rwa [Nat.add_right_comm] at hmem))
        · exact .inr (.inr ⟨o, ho, by omega, by omega⟩)

/-- Wherever a reader accepts there is an occurrence, or an earlier one goes on there. -/
lemma exists_occurrence {r : Reader α} {text : Text} {k : ℕ} {a : α} {n : ℕ}
    (hk : k < text.length) (h : r (text.drop k) = some (a, n)) :
    ⟨k, n, a⟩ ∈ r.occurrences text ∨ ∃ o ∈ r.occurrences text, o.start < k ∧ k < o.stop := by
  rcases exists_occurrencesFrom hk h 0 0 with hlt | hmem | ⟨o, ho, hin⟩
  · exact absurd hlt (Nat.not_lt_zero k)
  · exact .inl (by rwa [Nat.zero_add] at hmem)
  · exact .inr ⟨o, ho, by omega, by omega⟩

end Reader
end YiiNavigator
