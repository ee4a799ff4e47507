import Mathlib
import YiiNavigator.Layout
import YiiNavigator.Proofs.Text.Literal
import YiiNavigator.Route

/-!
# Literals under a cursor

The literals that one scan of a text finds stand one behind the other, their quotes included. So a
cursor is on one of them at most, and the first literal that covers an offset is the only one
(`IsLookup`).
-/

namespace YiiNavigator

/-! ## Spans of literals -/

/-- Whether a name has no quotes in it. -/
def IsUnquoted (name : Text) : Prop :=
  ∀ c ∈ name, Reader.isQuote c = false

namespace Literal

variable {literals : List Literal} {l l' : Literal} {offset : ℤ}

/-- The offsets from the opening quote of a literal to its closing quote. -/
def span (l : Literal) : Set ℤ :=
  Set.Icc (l.offset - 1) (l.offset + l.name.length)

/-- Whether a literal ends before another one begins, the quotes of both included. -/
def Precedes (l l' : Literal) : Prop :=
  ∀ i ∈ l.span, ∀ j ∈ l'.span, i < j

lemma covers_iff : l.covers offset = true ↔ offset ∈ l.span := by
  rw [covers, decide_eq_true_iff]
  rfl

lemma precedes_of_lt (h : l.offset + l.name.length + 1 < l'.offset) : l.Precedes l' := by
  intro i hi j hj
  have hend : i ≤ l.offset + l.name.length := hi.2
  have hstart : (l'.offset : ℤ) - 1 ≤ j := hj.1
  omega

/-- Of literals that stand one behind the other, at most one has an offset on it. -/
lemma eq_of_mem_span (h : literals.Pairwise Precedes) (hl : l ∈ literals) (hl' : l' ∈ literals)
    (hoffset : offset ∈ l.span) (hoffset' : offset ∈ l'.span) : l = l' := by
  have hapart : literals.Pairwise fun l l' => offset ∈ l.span → offset ∈ l'.span → l = l' :=
    h.imp fun hprecedes hi hj => absurd (hprecedes _ hi _ hj) (Int.lt_irrefl _)
  have : Std.Symm fun l l' : Literal => offset ∈ l.span → offset ∈ l'.span → l = l' :=
    ⟨fun _ _ heq hi hj => (heq hj hi).symm⟩
  exact hapart.forall_of_forall (fun _ _ _ _ => rfl) hl hl' hoffset hoffset'

/-! ## Looking a literal up -/

/-- Whether the literals of a text are told apart by an offset, and looked up by it: they are names
without quotes between two equal quotes, they stand one behind the other, and the literal that is
found at an offset is the one that has the offset on it. -/
structure IsLookup (text : Text) (literals : List Literal) (at? : ℤ → Option Literal) : Prop where
  quoted : ∀ l ∈ literals, QuotedAt text l.offset l.name
  unquoted : ∀ l ∈ literals, IsUnquoted l.name
  apart : literals.Pairwise Precedes
  unique : ∀ offset, ∀ l ∈ literals, ∀ l' ∈ literals,
    offset ∈ l.span → offset ∈ l'.span → l = l'
  at?_eq_some_iff : ∀ offset l, at? offset = some l ↔ l ∈ literals ∧ offset ∈ l.span
  at?_eq_none_iff : ∀ offset, at? offset = none ↔ ∀ l ∈ literals, offset ∉ l.span

/-- Literals that stand one behind the other are looked up by the first one that covers an
offset. -/
lemma isLookup_find? {text : Text} (hquoted : ∀ l ∈ literals, QuotedAt text l.offset l.name)
    (hunquoted : ∀ l ∈ literals, IsUnquoted l.name)
    (hapart : literals.Pairwise Precedes) :
    IsLookup text literals fun offset => literals.find? (·.covers offset) where
  quoted := hquoted
  unquoted := hunquoted
  apart := hapart
  unique := fun _ _ hl _ hl' => eq_of_mem_span hapart hl hl'
  at?_eq_some_iff := by
    intro offset l
    constructor
    · intro hfound
      have hcovers : l.covers offset = true := by simpa using List.find?_some hfound
      exact ⟨List.mem_of_find?_eq_some hfound, covers_iff.1 hcovers⟩
    · rintro ⟨hl, hoffset⟩
      have hfound : (literals.find? (·.covers offset)).isSome = true :=
        List.find?_isSome.2 ⟨l, hl, covers_iff.2 hoffset⟩
      obtain ⟨first, hfirst⟩ := Option.isSome_iff_exists.1 hfound
      have hcovers : first.covers offset = true := by simpa using List.find?_some hfirst
      have hsame := eq_of_mem_span hapart (List.mem_of_find?_eq_some hfirst) hl
        (covers_iff.1 hcovers) hoffset
      rw [hfirst, hsame]
  at?_eq_none_iff := by
    intro offset
    rw [List.find?_eq_none]
    simp only [covers_iff]

end Literal

/-! ## The literals of a scan -/

namespace Reader

variable {α β : Type} {p : α → Prop}

/-- Whether all values that a reader may give have a property. -/
def Yields (r : Reader α) (p : α → Prop) : Prop :=
  ∀ text a n, r text = some (a, n) → p a

/-- What is read before does not matter. -/
lemma Yields.bind {r : Reader β} {next : β → Reader α} (h : ∀ b, Yields (next b) p) :
    Yields (r >>= next) p := by
  intro text a n hread
  obtain ⟨b, k, m, -, hnext, -⟩ := bind_eq_some_iff.1 hread
  exact h b _ a m hnext

lemma literal_yields : Yields literal IsUnquoted := by
  intro text name n hread
  obtain ⟨front, -, -, ⟨mark, -, -, -, hname⟩, -⟩ := (accepts_literal _ _ _).1 hread
  exact hname

/-- The literals of a reader that ends with one are looked up by the first one that covers an
offset. -/
lemma isLookup_occurrences {r : Reader Text} (hends : EndsInLiteral r id)
    (hname : Yields r IsUnquoted) (text : Text) :
    Literal.IsLookup text ((r.occurrences text).map fun o => .atEnd o o.value) fun offset =>
      ((r.occurrences text).map fun o => Literal.atEnd o o.value).find? (·.covers offset) := by
  refine Literal.isLookup_find? (fun l hl => ?_) (fun l hl => ?_) ?_
  · obtain ⟨o, ho, rfl⟩ := List.mem_map.1 hl
    exact quotedAt_of_mem_occurrences hends ho
  · obtain ⟨o, ho, rfl⟩ := List.mem_map.1 hl
    obtain ⟨k, -, hread⟩ := read_of_mem_occurrencesFrom ho
    exact hname _ _ _ hread
  · rw [List.pairwise_map]
    exact (pairwise_occurrences_quotes hends text).imp fun hlt => Literal.precedes_of_lt hlt

end Reader

/-! ## Routes and layouts -/

/-- A call ends in its literal, whether or not an array is opened before it. So what holds of the
reader of a literal, whatever is read before, holds of the reader of a call. -/
lemma Route.callReader_ends {P : Reader Text → Prop}
    (hbind : ∀ {β : Type} {r : Reader β} {next : β → Reader Text},
      (∀ b, P (next b)) → P (r >>= next)) (hliteral : P Reader.literal) : P callReader := by
  refine hbind fun _ => hbind fun _ => hbind fun _ => hbind fun _ => hbind fun _ =>
    hbind fun _ => hbind fun spelledOut => ?_
  have hlast : P (Reader.blanks >>= fun _ => Reader.literal) := hbind fun _ => hliteral
  dsimp only
  split
  · exact hbind fun _ => hlast
  · exact hbind fun _ => hlast

lemma Layout.assignmentReader_ends {P : Reader Text → Prop}
    (hbind : ∀ {β : Type} {r : Reader β} {next : β → Reader Text},
      (∀ b, P (next b)) → P (r >>= next)) (hliteral : P Reader.literal) : P assignmentReader :=
  hbind fun _ => hbind fun _ => hbind fun _ => hliteral

/-- **A cursor is on one literal at most.** The routes of a text, and its layouts, are names without
quotes between two equal quotes, and stand one behind the other with all their quotes. So each
offset is on one of them at most, and looking up the offset finds the one that it is on. -/
theorem literalAt?_isLookup (text : Text) :
    Literal.IsLookup text (Route.literals text) (Route.literalAt? text)
      ∧ Literal.IsLookup text (Layout.literals text) (Layout.literalAt? text) := by
  constructor
  · exact Reader.isLookup_occurrences
      (Route.callReader_ends (P := (Reader.EndsInLiteral · id)) .bind Reader.literal_endsInLiteral)
      (Route.callReader_ends (P := (Reader.Yields · IsUnquoted)) .bind Reader.literal_yields) text
  · exact Reader.isLookup_occurrences
      (Layout.assignmentReader_ends (P := (Reader.EndsInLiteral · id)) .bind
        Reader.literal_endsInLiteral)
      (Layout.assignmentReader_ends (P := (Reader.Yields · IsUnquoted)) .bind
        Reader.literal_yields) text

/-- The quote behind a name that looks like a call is the end of that name, and not the beginning of
another one. -/
example : Route.literals "->createUrl(\x22::createUrl(\x22 x\x22".toList
    = [⟨"::createUrl(".toList, 13⟩] := by
  decide

end YiiNavigator
