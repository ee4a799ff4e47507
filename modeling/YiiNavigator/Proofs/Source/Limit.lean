import Mathlib.Data.List.Basic
import YiiNavigator.Proofs.Source.ArrayKeys
import YiiNavigator.Proofs.Text.Reader

/-!
# The limit of an array literal

The scan of an array literal looks at its limit in three places: before it reads a character, at the
character behind it, and at the arrow behind a string. Together they hide the text from the limit on
(`keysFrom_take`). A later limit shows more of the text. The keys that were there before stay in
front: where an arrow comes to light that an earlier limit cut off, what that limit left behind the
string is blanks and half an arrow, in which no string begins (`keysFrom_prefix`).
-/

namespace YiiNavigator
namespace Source

variable {limit wider depth offset : ℕ} {l : Lexer} {seen rest : Text} {c : Char}

/-! ## Arrows -/

lemma arrowFollows_iff (text : Text) : arrowFollows text = true
    ↔ ∃ gap after, text = gap ++ '=' :: '>' :: after ∧ ∀ c ∈ gap, Text.isBlank c = true := by
  unfold arrowFollows
  rw [List.isPrefixOf_iff_prefix]
  constructor
  · intro h
    obtain ⟨after, hafter⟩ := h
    refine ⟨text.takeWhile Text.isBlank, after, ?_, List.all_eq_true.1 List.all_takeWhile⟩
    conv_lhs => rw [← List.takeWhile_append_dropWhile (p := Text.isBlank) (l := text), ← hafter]
    rfl
  · intro h
    obtain ⟨gap, after, rfl, hgap⟩ := h
    rw [List.dropWhile_append_of_pos hgap, List.dropWhile_cons_of_neg (by decide)]
    exact ⟨after, rfl⟩

/-- An arrow that can be seen is seen in a longer text. -/
lemma arrowFollows_of_prefix {text longer : Text} (hfront : text <+: longer)
    (h : arrowFollows text = true) : arrowFollows longer = true := by
  obtain ⟨more, rfl⟩ := hfront
  obtain ⟨gap, after, rfl, hgap⟩ := (arrowFollows_iff text).1 h
  exact (arrowFollows_iff _).2 ⟨gap, after ++ more, by simp, hgap⟩

/-- What is left of a text when the arrow in front of it is cut off has no quotes. -/
lemma isQuote_of_arrow_cut {text longer : Text} (hfront : text <+: longer)
    (hlonger : arrowFollows longer = true) (h : ¬arrowFollows text = true) :
    ∀ c ∈ text, Reader.isQuote c = false := by
  obtain ⟨gap, after, rfl, hgap⟩ := (arrowFollows_iff longer).1 hlonger
  have harrow : gap ++ ['=', '>'] <+: gap ++ '=' :: '>' :: after := ⟨after, by simp⟩
  -- the text ends inside the gap and the arrow, or else it has the whole arrow
  have hcut : text <+: gap ++ ['=', '>'] := by
    refine (List.prefix_or_prefix_of_prefix hfront harrow).resolve_right fun hwhole => h ?_
    exact arrowFollows_of_prefix hwhole ((arrowFollows_iff _).2 ⟨gap, [], rfl, hgap⟩)
  intro c hc
  rcases List.mem_append.1 (hcut.subset hc) with hblank | hmark
  · rw [← Bool.not_eq_true, Reader.isQuote_iff]
    rintro (rfl | rfl)
    · exact absurd (hgap _ hblank) (by decide)
    · exact absurd (hgap _ hblank) (by decide)
  · simp only [List.mem_cons, List.not_mem_nil, or_false] at hmark
    rcases hmark with rfl | rfl
    · rfl
    · rfl

/-! ## The end of the scan -/

lemma keysFrom_of_le (h : limit ≤ offset) (l : Lexer) (depth : ℕ) (seen rest : Text) :
    keysFrom limit l depth seen offset rest = [] := by
  rcases rest with - | ⟨c, rest⟩
  · rfl
  · rw [keysFrom.eq_def]
    exact if_pos h

/-- A character ends no key when no string is read or no arrow comes behind it. -/
lemma keysFrom_cons_eq_nil
    (harrow : (∀ mark, l.region ≠ .quoted mark)
      ∨ arrowFollows (rest.take (limit - (offset + 1))) = false)
    (hlater : ∀ following depth seen,
      keysFrom limit (l.next c following) depth seen (offset + 1) rest = [])
    (depth : ℕ) (seen : Text) : keysFrom limit l depth seen offset (c :: rest) = [] := by
  rw [keysFrom.eq_def]
  simp only [hlater]
  split
  · rfl
  · split
    · -- in code the character may be a bracket
      split
      · rfl
      · split
        · rcases depth with - | depth
          · rfl
          · rfl
        · rfl
    · next mark hmark =>
      have hnone := harrow.resolve_left fun hregion => hregion mark hmark
      simp only [hnone, Bool.and_false, Bool.false_eq_true, if_false, ite_self]
    · rfl

/-- The last character before the limit ends no key. -/
lemma keysFrom_of_le_succ (h : limit ≤ offset + 1) (l : Lexer) (depth : ℕ) (seen rest : Text) :
    keysFrom limit l depth seen offset rest = [] := by
  rcases rest with - | ⟨c, rest⟩
  · rfl
  · have harrow : arrowFollows (rest.take (limit - (offset + 1))) = false := by
      rw [Nat.sub_eq_zero_of_le h]
      rfl
    exact keysFrom_cons_eq_nil (.inr harrow) (fun _ _ _ => keysFrom_of_le h _ _ _ _) depth seen

/-- No key is found where no string is read and no quote comes. -/
lemma keysFrom_of_no_quotes (hregion : ∀ mark, l.region ≠ .quoted mark)
    (h : ∀ c ∈ rest.take (limit - offset), Reader.isQuote c = false) (depth : ℕ) (seen : Text) :
    keysFrom limit l depth seen offset rest = [] := by
  induction rest generalizing l depth seen offset with
  | nil => rfl
  | cons c rest ih =>
    by_cases hoffset : limit ≤ offset
    · exact keysFrom_of_le hoffset l depth seen (c :: rest)
    · have hsub : limit - offset = limit - (offset + 1) + 1 := by omega
      rw [hsub, List.take_succ_cons] at h
      obtain ⟨hquote, hrest⟩ := List.forall_mem_cons.1 h
      refine keysFrom_cons_eq_nil (.inl hregion) (fun following => ih ?_ hrest) depth seen
      intro mark hmark
      rcases quoted_of_next hmark with hstring | ⟨-, -, hopen⟩
      · exact hregion mark hstring
      · rw [hquote] at hopen
        cases hopen

/-- Where a limit cuts off the arrow behind a string, no key is left. -/
lemma keysFrom_of_arrow_cut (h : limit ≤ wider) (hcode : l.region = .code)
    (hwider : arrowFollows (rest.take (wider - offset)) = true)
    (hlimit : ¬arrowFollows (rest.take (limit - offset)) = true) (depth : ℕ) (seen : Text) :
    keysFrom limit l depth seen offset rest = [] := by
  have hsees : rest.take (limit - offset) <+: rest.take (wider - offset) :=
    List.take_prefix_take_left (Nat.sub_le_sub_right h offset)
  refine keysFrom_of_no_quotes ?_ (isQuote_of_arrow_cut hsees hwider hlimit) depth seen
  intro mark hmark
  rw [hcode] at hmark
  cases hmark

/-! ## Two limits -/

/-- The scan up to a limit does not see the text from there on. -/
lemma keysFrom_take (h : limit ≤ wider) (l : Lexer) (depth : ℕ) (seen : Text) (offset : ℕ)
    (rest : Text) : keysFrom wider l depth seen offset (rest.take (limit - offset))
      = keysFrom limit l depth seen offset rest := by
  induction rest generalizing l depth seen offset with
  | nil =>
    rw [List.take_nil]
    rfl
  | cons c rest ih =>
    by_cases hoffset : limit ≤ offset
    · rw [Nat.sub_eq_zero_of_le hoffset, List.take_zero, keysFrom_of_le hoffset]
      rfl
    · have hsub : limit - offset = limit - (offset + 1) + 1 := by omega
      have hahead : (if offset + 1 < wider then (rest.take (limit - (offset + 1))).head? else none)
          = if offset + 1 < limit then rest.head? else none := by
        rw [List.head?_take]
        by_cases hlast : offset + 1 < limit
        · have hwider : offset + 1 < wider := by omega
          have hmore : limit - (offset + 1) ≠ 0 := by omega
          rw [if_pos hwider, if_neg hmore, if_pos hlast]
        · have hnone : limit - (offset + 1) = 0 := by omega
          rw [if_pos hnone, if_neg hlast, ite_self]
      have harrow : (rest.take (limit - (offset + 1))).take (wider - (offset + 1))
          = rest.take (limit - (offset + 1)) := by
        rw [List.take_take, Nat.min_eq_right (by omega)]
      have hbefore : ¬wider ≤ offset := by omega
      rw [hsub, List.take_succ_cons, keysFrom.eq_def, keysFrom.eq_def]
      dsimp only
      rw [hahead, harrow, if_neg hoffset, if_neg hbefore]
      simp only [ih]

/-- A later limit adds keys behind those that were there before. -/
lemma keysFrom_prefix (h : limit ≤ wider) (l : Lexer) (depth : ℕ) (seen : Text) (offset : ℕ)
    (rest : Text) : keysFrom limit l depth seen offset rest
      <+: keysFrom wider l depth seen offset rest := by
  induction rest generalizing l depth seen offset with
  | nil => exact List.prefix_refl _
  | cons c rest ih =>
    by_cases hlast : limit ≤ offset + 1
    · rw [keysFrom_of_le_succ hlast]
      exact List.nil_prefix
    · -- neither limit comes before the character behind this one, so that both scans go on alike
      have hoffset : ¬limit ≤ offset := by omega
      have hoffset' : ¬wider ≤ offset := by omega
      have hahead : offset + 1 < limit := by omega
      have hahead' : offset + 1 < wider := by omega
      rw [keysFrom.eq_def, keysFrom.eq_def]
      dsimp only
      rw [if_neg hoffset, if_neg hoffset', if_pos hahead, if_pos hahead']
      split
      · -- in code the character may be a bracket
        split
        · exact ih _ _ _ _
        · split
          · split
            · exact List.prefix_refl _
            · exact ih _ _ _ _
          · exact ih _ _ _ _
      · -- in a string it may be the quote that ends a key
        split
        · next hclose =>
          split
          · next hkey =>
            obtain ⟨hdepth, harrow⟩ := Bool.and_eq_true_iff.1 hkey
            have hsees : rest.take (limit - (offset + 1)) <+: rest.take (wider - (offset + 1)) :=
              List.take_prefix_take_left (Nat.sub_le_sub_right h (offset + 1))
            rw [if_pos (Bool.and_eq_true_iff.2 ⟨hdepth, arrowFollows_of_prefix hsees harrow⟩)]
            exact List.cons_prefix_cons.2 ⟨rfl, ih _ _ _ _⟩
          · next hkey =>
            split
            · -- the later limit alone shows the arrow
              next hlater =>
              obtain ⟨hdepth, harrow⟩ := Bool.and_eq_true_iff.1 hlater
              rw [keysFrom_of_arrow_cut h hclose harrow fun hshort =>
                hkey (Bool.and_eq_true_iff.2 ⟨hdepth, hshort⟩)]
              exact List.nil_prefix
            · exact ih _ _ _ _
        · exact ih _ _ _ _
      · exact ih _ _ _ _

/-! ## The main result -/

/-- Without a limit the scan ends at the end of the text. -/
lemma arrayKeys_unbounded (text : Text) (start : ℤ) : arrayKeys text start (-1)
    = keysFrom text.length (.entering (text.take start.toNat)) 0 [] start.toNat
        (text.drop start.toNat) :=
  rfl

/-- A limit is no less than the front of the text and no more than its end. -/
lemma arrayKeys_of_ne {stop : ℤ} (h : stop ≠ -1) (text : Text) (start : ℤ) :
    arrayKeys text start stop = keysFrom (min stop.toNat text.length)
      (.entering (text.take start.toNat)) 0 [] start.toNat (text.drop start.toNat) := by
  have hlimit : stop ≠ Action.unbounded := h
  unfold arrayKeys
  rw [if_neg hlimit]

/-- The text from a limit on does not count. -/
lemma arrayKeys_eq_take {stop : ℤ} (h : stop ≠ -1) (text : Text) (start : ℤ) :
    arrayKeys text start stop = arrayKeys (text.take stop.toNat) start (-1) := by
  rw [arrayKeys_unbounded, arrayKeys_of_ne h, List.length_take]
  by_cases hstart : start.toNat ≤ stop.toNat
  · have hrest : (text.take stop.toNat).drop start.toNat
        = (text.drop start.toNat).take (min stop.toNat text.length - start.toNat) := by
      rw [List.drop_take, List.take_eq_take_iff, List.length_drop]
      omega
    rw [List.take_take, Nat.min_eq_left hstart, hrest, keysFrom_take (Nat.le_refl _)]
  · have hlimit : min stop.toNat text.length ≤ start.toNat := by omega
    rw [keysFrom_of_le hlimit, keysFrom_of_le hlimit]

/-- **A limit cuts the text of an array literal off.** Up to a limit the same keys are found as in
the text that ends there. A later limit, or none, adds keys behind those that an earlier one leaves,
wherever the limits fall. -/
theorem arrayKeys_upToLimit (text : Text) (start : ℤ) {stop later : ℤ} (hstop : 0 ≤ stop)
    (hlater : stop ≤ later) :
    arrayKeys text start stop = arrayKeys (text.take stop.toNat) start (-1)
      ∧ arrayKeys text start stop <+: arrayKeys text start later
      ∧ arrayKeys text start later <+: arrayKeys text start (-1) := by
  have hne : stop ≠ -1 := by omega
  have hlaterNe : later ≠ -1 := by omega
  refine ⟨arrayKeys_eq_take hne text start, ?_, ?_⟩
  · have hlimits : min stop.toNat text.length ≤ min later.toNat text.length := by omega
    rw [arrayKeys_of_ne hne, arrayKeys_of_ne hlaterNe]
    exact keysFrom_prefix hlimits _ _ _ _ _
  · rw [arrayKeys_of_ne hlaterNe, arrayKeys_unbounded]
    exact keysFrom_prefix (Nat.min_le_right later.toNat text.length) _ _ _ _ _

/-- A limit between the two characters of an arrow, and one right behind them. -/
theorem arrayKeys_upToLimit_cutArrow :
    let text := "\x27a\x27 => [1], \x27b\x27  => 2)".toList
    (0 : ℤ) ≤ 18 ∧ (18 : ℤ) ≤ 19
      ∧ (arrayKeys text (-1) 18 = arrayKeys (text.take 18) (-1) (-1)
        ∧ arrayKeys text (-1) 18 <+: arrayKeys text (-1) 19
        ∧ arrayKeys text (-1) 19 <+: arrayKeys text (-1) (-1))
      ∧ arrayKeys text (-1) 18 = [⟨"a".toList, 1⟩]
      ∧ arrayKeys text (-1) 19 = [⟨"a".toList, 1⟩, ⟨"b".toList, 13⟩] := by
  intro text
  have hstop : (0 : ℤ) ≤ 18 := by decide
  have hlater : (18 : ℤ) ≤ 19 := by decide
  exact ⟨hstop, hlater, arrayKeys_upToLimit text (-1) hstop hlater, by decide, by decide⟩

end Source
end YiiNavigator
