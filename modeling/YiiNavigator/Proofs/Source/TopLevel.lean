import YiiNavigator.Proofs.Source.Limit
import YiiNavigator.Proofs.Source.Nesting

/-!
# Keys at the top level of an array literal

The scan of an array literal runs through its text once and counts brackets as it goes. Its keys
are compared with a description in two stages, as those of bodies are: the text is cut into pieces
of code, strings and comments (`lexemes`), and a key is a closed string up to which as many
brackets have opened as closed among the characters of code, and behind which an arrow comes
(`IsKeyAt`).
-/

namespace YiiNavigator
namespace Source

/-! ## The keys by counting -/

/-- Whether an opening bracket stands at an offset. -/
def opensAt (text : Text) (i : ℕ) : Bool :=
  isAt text '(' i || isAt text '[' i

/-- Whether a closing bracket stands at an offset. -/
def closesAt (text : Text) (i : ℕ) : Bool :=
  isAt text ')' i || isAt text ']' i

/-- The number of brackets that open in code from `start` up to an offset, less that of those that
close. -/
def bracketBalance (text : Text) (start i : ℕ) : ℤ :=
  (codeOffsets text start).countP (fun j => opensAt text j && decide (j < i))
    - (codeOffsets text start).countP (fun j => closesAt text j && decide (j < i))

/-- Whether a key stands in an array literal that is read from `start` on, `depth` brackets being
open there: a closed string at a place where one bracket is open, with an arrow behind it. At no
place up to there all brackets are closed. -/
structure IsKeyAt (text : Text) (depth : ℤ) (start : ℕ) (key : Literal) : Prop where
  literal : ∃ opening, key.offset = opening + 1
    ∧ .quoted opening (some (key.offset + key.name.length)) ∈ lexemes text start
  name_eq : (text.take (key.offset + key.name.length)).drop key.offset = key.name
  balance_eq : depth + bracketBalance text start (key.offset - 1) = 1
  balance_ne : ∀ i, start ≤ i → i < key.offset → depth + bracketBalance text start i ≠ 0
  arrow : ∃ gap after, text.drop (key.offset + key.name.length + 1) = gap ++ '=' :: '>' :: after
    ∧ ∀ c ∈ gap, Text.isBlank c = true

variable {text : Text} {key : Literal} {depth i j : ℕ}

/-! ## Pieces of the cut -/

/-- The offset where a piece starts. -/
def Lexeme.start : Lexeme → ℕ
  | code i => i
  | quoted opening _ => opening
  | comment start _ => start

lemma start_lexemeAt (text : Text) (i : ℕ) : (lexemeAt text i).start = i := by
  unfold lexemeAt
  split
  · rfl
  · split
    · rfl
    · split
      · rfl
      · rfl

lemma lexemes_of_le (h : text.length ≤ i) : lexemes text i = [] := by
  rw [lexemes, dif_neg (by omega)]

lemma lexemes_of_lt (h : i < text.length) :
    lexemes text i = lexemeAt text i :: lexemes text ((lexemeAt text i).stop text.length) := by
  rw [lexemes, dif_pos h]

/-- No piece starts before the place from which the text is cut. -/
lemma le_start_of_mem_lexemes {piece : Lexeme} (h : piece ∈ lexemes text i) :
    i ≤ piece.start := by
  -- a piece may be long, so the induction skips to where it stops
  induction hn : text.length - i using Nat.strongRecOn generalizing i with
  | ind n ih =>
    by_cases hi : i < text.length
    · rw [lexemes_of_lt hi] at h
      have hstop := lt_stop_lexemeAt hi
      rcases List.mem_cons.1 h with hpiece | hlater
      · rw [hpiece]
        exact Nat.le_of_eq (start_lexemeAt text i).symm
      · have := ih _ (by omega) hlater rfl
        omega
    · rw [lexemes_of_le (by omega)] at h
      cases h

/-! ## What a piece does to the balance -/

/-- What a piece adds to the number of open brackets. -/
def bracketChange (text : Text) : Lexeme → ℤ
  | .code i => if opensAt text i then 1 else if closesAt text i then -1 else 0
  | _ => 0

lemma closesAt_of_opensAt (h : opensAt text i = true) : closesAt text i = false := by
  simp only [opensAt, Bool.or_eq_true] at h
  rcases h with h | h
  · simp [closesAt, isAt_unique h]
  · simp [closesAt, isAt_unique h]

/-- No offset of code comes before the place from which the text is cut. -/
lemma countP_codeOffsets_of_le (h : j ≤ i) (p : ℕ → Bool) :
    (codeOffsets text i).countP (fun k => p k && decide (k < j)) = 0 := by
  apply List.countP_eq_zero.2
  intro k hk
  have := (mem_codeOffsets hk).1
  simp only [Bool.and_eq_true, decide_eq_true_eq]
  omega

lemma bracketBalance_of_le (h : j ≤ i) : bracketBalance text i j = 0 := by
  rw [bracketBalance, countP_codeOffsets_of_le h, countP_codeOffsets_of_le h]
  rfl

/-- The first piece counts if it is a bracket before the offset. -/
lemma bracketBalance_of_lt (hi : i < text.length) (j : ℕ) :
    bracketBalance text i j = (if i < j then bracketChange text (lexemeAt text i) else 0)
      + bracketBalance text ((lexemeAt text i).stop text.length) j := by
  have hstart := start_lexemeAt text i
  unfold bracketBalance
  rw [codeOffsets_of_lt hi, List.countP_append, List.countP_append]
  rcases hpiece : lexemeAt text i with k | ⟨opening, closing⟩ | ⟨start, stop⟩
  · rw [hpiece] at hstart
    obtain rfl : k = i := hstart
    by_cases hj : k < j
    · by_cases hopen : opensAt text k = true
      · have hclose := closesAt_of_opensAt hopen
        simp [Lexeme.codeOffset?, bracketChange, hj, hopen, hclose]
        omega
      · by_cases hclose : closesAt text k = true
        · simp [Lexeme.codeOffset?, bracketChange, hj, hopen, hclose]
          omega
        · simp [Lexeme.codeOffset?, bracketChange, hj, hopen, hclose]
    · simp [Lexeme.codeOffset?, hj]
  · simp [Lexeme.codeOffset?, bracketChange]
  · simp [Lexeme.codeOffset?, bracketChange]

/-! ## The scan, one piece after another -/

/-- The number of inner brackets that are open behind a piece, unless it closes the literal. -/
def depthBehind (text : Text) (depth : ℕ) : Lexeme → Option ℕ
  | .code i =>
    if opensAt text i then some (depth + 1)
    else if closesAt text i then
      match depth with
      | 0 => none
      | depth + 1 => some depth
    else some depth
  | _ => some depth

/-- The key that a piece is, `depth` inner brackets being open. -/
def keyOf? (text : Text) (depth : ℕ) : Lexeme → Option Literal
  | .quoted opening (some closing) =>
    if depth = 0 && arrowFollows (text.drop (closing + 1)) then
      some ⟨(text.take closing).drop (opening + 1), opening + 1⟩
    else none
  | _ => none

/-- The keys that the scan finds from an offset on, given its region there. -/
def keysAt (text : Text) (depth : ℕ) (region : Region) (i : ℕ) : List Literal :=
  keysFrom text.length (stateAt text region i) depth [] i (text.drop i)

/-- What the end of the text leaves to be seen behind a character. -/
lemma following_eq (text : Text) (i : ℕ) :
    (if i + 1 < text.length then text[i + 1]? else none) = text[i + 1]? := by
  split
  · rfl
  · next h => exact (List.getElem?_eq_none (Nat.le_of_not_lt h)).symm

lemma keysAt_of_le (h : text.length ≤ i) (depth : ℕ) (region : Region) :
    keysAt text depth region i = [] := by
  rw [keysAt, List.drop_eq_nil_of_le h]
  rfl

lemma keysAt_passesComments (text : Text) (depth : ℕ) :
    PassesComments text [] (keysAt text depth) where
  done := fun region i h => keysAt_of_le h depth region
  pass := by
    intro region i h hcomment
    unfold keysAt
    rw [List.drop_eq_getElem_cons h, keysFrom.eq_def]
    dsimp only
    rw [if_neg (Nat.not_le.2 h), List.head?_drop, following_eq, stateAt_next h]
    cases region with
    | code => cases hcomment
    | quoted mark => cases hcomment
    | lineComment => rfl
    | blockOpening => rfl
    | blockComment => rfl
    | blockClosing => rfl

/-- A bracket is passed over in code, and so is every other character, except that the bracket that
closes the literal ends the scan. -/
lemma keysAt_code_of_lt (h : i < text.length) :
    keysAt text depth .code i
      = (depthBehind text depth (.code i)).elim [] fun depth' =>
        keysAt text depth' ((stateAt text .code i).regionAfter text[i] text[i + 1]?) (i + 1) := by
  have hopens : opensBracket text[i] = opensAt text i := by
    simp [opensBracket, opensAt, isAt, h]
  have hcloses : closesBracket text[i] = closesAt text i := by
    simp [closesBracket, closesAt, isAt, h]
  have hregion : (stateAt text .code i).region = .code := rfl
  unfold keysAt depthBehind
  rw [List.drop_eq_getElem_cons h, keysFrom.eq_def]
  dsimp only
  rw [if_neg (Nat.not_le.2 h), List.head?_drop, following_eq, stateAt_next h, hregion, hopens,
    hcloses]
  dsimp only
  split
  · rfl
  · split
    · rcases depth with - | depth
      · rfl
      · rfl
    · rfl

/-- In a string the scan collects characters until the quote that closes the string. -/
lemma keysFrom_quoted {opening : ℕ} (hopening : opening < i) {mark : Char}
    (hmark : text[opening]? = some mark) :
    keysFrom text.length (stateAt text (.quoted mark) i) depth
        ((text.take i).drop (opening + 1)).reverse i (text.drop i)
      = (firstOffset? text (isCloseQuote text opening) i).elim [] fun closing =>
        (keyOf? text depth (.quoted opening (some closing))).toList
          ++ keysAt text depth .code (closing + 1) := by
  induction hn : text.length - i generalizing i with
  | zero =>
    have hle : text.length ≤ i := by omega
    have hdrop : text.drop i = [] := List.drop_eq_nil_of_le hle
    rw [hdrop, firstOffset?_of_le hle]
    rfl
  | succ n ih =>
    have h : i < text.length := by omega
    have hcode : (stateAt text .code (i + 1)).region = .code := rfl
    have hstring : (stateAt text (.quoted mark) (i + 1)).region ≠ .code := by
      simp [stateAt]
    have hregion : (stateAt text (.quoted mark) i).region = .quoted mark := rfl
    have hafter : (stateAt text (.quoted mark) i).regionAfter text[i] text[i + 1]?
        = if isCloseQuote text opening i then .code else .quoted mark := by
      simp [stateAt, Lexer.regionAfter, isCloseQuote, hmark, h]
    have hrest : (text.drop (i + 1)).take (text.length - (i + 1)) = text.drop (i + 1) := by
      rw [← List.length_drop, List.take_length]
    rw [List.drop_eq_getElem_cons h, keysFrom.eq_def, firstOffset?_of_lt h]
    dsimp only
    rw [if_neg (Nat.not_le.2 h), List.head?_drop, following_eq, stateAt_next h, hregion, hafter,
      hrest]
    dsimp only
    by_cases hclose : isCloseQuote text opening i = true
    · have hlength : i - ((text.take i).drop (opening + 1)).reverse.length = opening + 1 := by
        rw [List.length_reverse, List.length_drop, List.length_take]
        omega
      rw [if_pos hclose, if_pos hclose, if_pos hcode, Option.elim_some, keyOf?, hlength,
        List.reverse_reverse]
      split
      · rfl
      · rfl
    · have hseen : text[i] :: ((text.take i).drop (opening + 1)).reverse
          = ((text.take (i + 1)).drop (opening + 1)).reverse := by
        rw [List.take_add_one, List.getElem?_eq_getElem h,
          List.drop_append_of_le_length (by rw [List.length_take]; omega)]
        simp
      rw [if_neg hclose, if_neg hclose, if_neg hstring, hseen]
      exact ih (by omega) (by omega)

/-- A character that opens a string or a comment is no bracket. -/
lemma depthBehind_of_mark {c : Char} (hc : text[i]? = some c)
    (hmark : Reader.isQuote c = true ∨ c = '#' ∨ c = '/') :
    depthBehind text depth (.code i) = some depth := by
  rcases hmark with hquote | rfl | rfl
  · rcases Reader.isQuote_iff.1 hquote with rfl | rfl
    · simp [depthBehind, opensAt, closesAt, isAt, hc]
    · simp [depthBehind, opensAt, closesAt, isAt, hc]
  · simp [depthBehind, opensAt, closesAt, isAt, hc]
  · simp [depthBehind, opensAt, closesAt, isAt, hc]

/-- The scan reads a piece of the cut as a whole. -/
lemma keysAt_lexemeAt (h : i < text.length) :
    keysAt text depth .code i = (keyOf? text depth (lexemeAt text i)).toList
      ++ (depthBehind text depth (lexemeAt text i)).elim [] fun depth' =>
        keysAt text depth' .code ((lexemeAt text i).stop text.length) := by
  have hpasses := keysAt_passesComments text depth
  have hc := List.getElem?_eq_getElem h
  rw [keysAt_code_of_lt h]
  rcases lexemeAt_cases h with ⟨hregion, hquote, hpiece⟩ | ⟨hregion, hmark, hpiece⟩ |
    ⟨hregion, hmark, hpiece⟩ | ⟨hregion, hpiece⟩
  · -- a string: its characters are collected from the first one on
    have hseen : [] = ((text.take (i + 1)).drop (i + 1)).reverse := by
      simp
    rw [hregion, hpiece, depthBehind_of_mark hc (Or.inl hquote), Option.elim_some, keysAt, hseen,
      keysFrom_quoted (Nat.lt_succ_self i) hc]
    rcases firstOffset? text (isCloseQuote text i) (i + 1) with - | closing
    · exact (hpasses.done _ _ (Nat.le_refl _)).symm
    · rfl
  · rw [hregion, hpiece, depthBehind_of_mark hc (Or.inr hmark), Option.elim_some,
      hpasses.lineComment]
    exact (hpasses.code_stop 1 _).symm
  · rw [hregion, hpiece, depthBehind_of_mark hc (Or.inr (Or.inr hmark)), Option.elim_some,
      hpasses.blockOpening, hpasses.blockComment]
    simp only [hpasses.blockClosing]
    exact (hpasses.code_stop 2 _).symm
  · rw [hregion, hpiece]
    rfl

/-! ## Keys, one piece after another -/

/-- A string starts at its opening quote, and ends behind it within the text. -/
lemma closing_lexemeAt (hi : i < text.length) {opening closing : ℕ}
    (hpiece : lexemeAt text i = .quoted opening (some closing)) :
    opening = i ∧ i < closing ∧ closing < text.length := by
  rcases lexemeAt_cases hi with ⟨-, -, h⟩ | ⟨-, -, h⟩ | ⟨-, -, h⟩ | ⟨-, h⟩
  · rw [h, Lexeme.quoted.injEq] at hpiece
    have := le_of_firstOffset? hpiece.2
    omega
  · rw [h] at hpiece
    cases hpiece
  · rw [h] at hpiece
    cases hpiece
  · rw [h] at hpiece
    cases hpiece

/-- Behind a piece as many brackets are open as before, and what the piece adds; the literal is
closed by the piece that leaves none. -/
lemma depthBehind_cases (text : Text) (depth : ℕ) (piece : Lexeme) :
    (depthBehind text depth piece = none ∧ (depth + 1 : ℤ) + bracketChange text piece = 0)
      ∨ ∃ depth', depthBehind text depth piece = some depth'
        ∧ (depth' : ℤ) = depth + bracketChange text piece := by
  unfold depthBehind bracketChange
  rcases piece with k | ⟨opening, closing⟩ | ⟨start, stop⟩
  · dsimp only
    split
    · exact Or.inr ⟨depth + 1, rfl, by omega⟩
    · split
      · rcases depth with - | depth
        · exact Or.inl ⟨rfl, by omega⟩
        · exact Or.inr ⟨depth, rfl, by omega⟩
      · exact Or.inr ⟨depth, rfl, by omega⟩
  · exact Or.inr ⟨depth, rfl, (Int.add_zero _).symm⟩
  · exact Or.inr ⟨depth, rfl, (Int.add_zero _).symm⟩

/-- The piece that is read is a key if the scan takes it for one. -/
lemma isKeyAt_of_keyOf? (hi : i < text.length)
    (h : keyOf? text depth (lexemeAt text i) = some key) : IsKeyAt text (depth + 1) i key := by
  have hcut := lexemes_of_lt hi
  rcases hpiece : lexemeAt text i with k | ⟨opening, - | closing⟩ | ⟨start, stop⟩
  · rw [hpiece] at h
    cases h
  · rw [hpiece] at h
    cases h
  · obtain ⟨rfl, hlt, hlength⟩ := closing_lexemeAt hi hpiece
    rw [hpiece, keyOf?] at h
    split at h
    · rename_i hkey
      cases h
      simp only [Bool.and_eq_true, decide_eq_true_eq] at hkey
      obtain ⟨rfl, harrow⟩ := hkey
      have hend : opening + 1 + ((text.take closing).drop (opening + 1)).length = closing := by
        rw [List.length_drop, List.length_take]
        omega
      refine ⟨⟨opening, rfl, ?_⟩, ?_, ?_, ?_, ?_⟩
      · rw [hcut, hpiece]
        simp only [hend]
        exact List.mem_cons_self
      · simp only [hend]
      · rw [bracketBalance_of_le (by simp)]
        rfl
      · intro j hj hlt
        rw [bracketBalance_of_le (by simp only at hlt; omega)]
        decide
      · simp only [hend]
        exact (arrowFollows_iff _).1 harrow
    · cases h
  · rw [hpiece] at h
    cases h

/-- Keys stand behind the place from which the text is cut. -/
lemma IsKeyAt.lt_offset {brackets : ℤ} (h : IsKeyAt text brackets i key) : i < key.offset := by
  obtain ⟨opening, hoffset, hmem⟩ := h.literal
  have hle : i ≤ opening := le_start_of_mem_lexemes hmem
  omega

/-- A key that is not the first piece is one of those behind that piece. -/
lemma isKeyAt_behind (hi : i < text.length) {depth' : ℕ}
    (hdepth : (depth' : ℤ) = depth + bracketChange text (lexemeAt text i)) :
    IsKeyAt text (depth' + 1) ((lexemeAt text i).stop text.length) key
      ↔ IsKeyAt text (depth + 1) i key ∧ (lexemeAt text i).stop text.length < key.offset := by
  have hstop := lt_stop_lexemeAt hi
  have hcut := lexemes_of_lt hi
  -- behind the place both balances leave the same number of brackets open
  have hopen : ∀ j, i < j → (depth + 1 : ℤ) + bracketBalance text i j
      = depth' + 1 + bracketBalance text ((lexemeAt text i).stop text.length) j := by
    intro j hj
    rw [bracketBalance_of_lt hi, if_pos hj]
    omega
  constructor
  · intro h
    have hlt := h.lt_offset
    obtain ⟨opening, hoffset, hmem⟩ := h.literal
    refine ⟨⟨⟨opening, hoffset, ?_⟩, h.name_eq, ?_, ?_, h.arrow⟩, hlt⟩
    · rw [hcut]
      exact List.mem_cons_of_mem _ hmem
    · rw [hopen _ (by omega)]
      exact h.balance_eq
    · intro j hj hjkey
      by_cases hbefore : j < (lexemeAt text i).stop text.length
      · -- within the piece none of the brackets that were open is closed
        by_cases hji : j = i
        · rw [hji, bracketBalance_of_le (Nat.le_refl i)]
          omega
        · rw [hopen j (by omega), bracketBalance_of_le (by omega)]
          omega
      · rw [hopen j (by omega)]
        exact h.balance_ne j (by omega) hjkey
  · intro h
    obtain ⟨h, hlt⟩ := h
    obtain ⟨opening, hoffset, hmem⟩ := h.literal
    refine ⟨⟨opening, hoffset, ?_⟩, h.name_eq, ?_, ?_, h.arrow⟩
    · rw [hcut] at hmem
      rcases List.mem_cons.1 hmem with hpiece | hmem
      · have hclosing := closing_lexemeAt hi hpiece.symm
        omega
      · exact hmem
    · rw [← hopen _ (by omega)]
      exact h.balance_eq
    · intro j hj hjkey
      rw [← hopen j (by omega)]
      exact h.balance_ne j (by omega) hjkey

/-- A key is the first piece or comes behind it, unless the first piece closes the literal. -/
lemma isKeyAt_iff (hi : i < text.length) : IsKeyAt text (depth + 1) i key
    ↔ keyOf? text depth (lexemeAt text i) = some key
      ∨ ∃ depth', depthBehind text depth (lexemeAt text i) = some depth'
        ∧ IsKeyAt text (depth' + 1) ((lexemeAt text i).stop text.length) key := by
  have hstop := lt_stop_lexemeAt hi
  constructor
  · intro h
    obtain ⟨opening, hoffset, hmem⟩ := h.literal
    rw [lexemes_of_lt hi] at hmem
    rcases List.mem_cons.1 hmem with hpiece | hmem
    · left
      obtain ⟨rfl, -, -⟩ := closing_lexemeAt hi hpiece.symm
      have hdepth := h.balance_eq
      rw [bracketBalance_of_le (by omega)] at hdepth
      have hname := h.name_eq
      have harrow := (arrowFollows_iff _).2 h.arrow
      rw [hoffset] at hname harrow
      rw [← hpiece, hoffset, keyOf?, harrow, hname, if_pos (by simp; omega), ← hoffset]
    · right
      have hlt : (lexemeAt text i).stop text.length < key.offset := by
        have hle : _ ≤ opening := le_start_of_mem_lexemes hmem
        omega
      rcases depthBehind_cases text depth (lexemeAt text i) with ⟨-, hzero⟩ | ⟨depth', hsome, hd⟩
      · -- with the last bracket closed there would be no key
        have hne := h.balance_ne _ (Nat.le_of_lt hstop) hlt
        rw [bracketBalance_of_lt hi, if_pos hstop, bracketBalance_of_le (Nat.le_refl _)] at hne
        omega
      · exact ⟨depth', hsome, (isKeyAt_behind hi hd).2 ⟨h, hlt⟩⟩
  · intro h
    rcases h with hkey | ⟨depth', hsome, h⟩
    · exact isKeyAt_of_keyOf? hi hkey
    · rcases depthBehind_cases text depth (lexemeAt text i) with ⟨hnone, -⟩ | ⟨d, hd, hsum⟩
      · rw [hnone] at hsome
        cases hsome
      · rw [hd] at hsome
        cases hsome
        exact ((isKeyAt_behind hi hsum).1 h).1

/-- The scan finds the keys, from wherever it begins in code. -/
lemma mem_keysAt_iff : key ∈ keysAt text depth .code i ↔ IsKeyAt text (depth + 1) i key := by
  induction hn : text.length - i using Nat.strongRecOn generalizing depth i with
  | ind n ih =>
    by_cases hi : i < text.length
    · have hstop := lt_stop_lexemeAt hi
      rw [isKeyAt_iff hi, keysAt_lexemeAt hi, List.mem_append, Option.mem_toList]
      apply or_congr Iff.rfl
      rcases depthBehind text depth (lexemeAt text i) with - | depth'
      · simp
      · simp only [Option.elim_some, Option.some.injEq, exists_eq_left']
        exact ih _ (by omega) rfl
    · rw [keysAt_of_le (by omega)]
      constructor
      · intro h
        cases h
      · intro h
        obtain ⟨opening, -, hmem⟩ := h.literal
        rw [lexemes_of_le (by omega)] at hmem
        cases hmem

/-- A key stands behind the quote with which its piece starts. -/
lemma offset_of_keyOf? {piece : Lexeme} (h : keyOf? text depth piece = some key) :
    key.offset = piece.start + 1 := by
  unfold keyOf? at h
  split at h
  · split at h
    · cases h
      rfl
    · cases h
  · cases h

/-- The scan finds the keys in their order. -/
lemma keysAt_pairwise (text : Text) (depth i : ℕ) :
    (keysAt text depth .code i).Pairwise fun key key' => key.offset < key'.offset := by
  induction hn : text.length - i using Nat.strongRecOn generalizing depth i with
  | ind n ih =>
    by_cases hi : i < text.length
    · have hstop := lt_stop_lexemeAt hi
      rw [keysAt_lexemeAt hi, List.pairwise_append]
      refine ⟨?_, ?_, ?_⟩
      · cases keyOf? text depth (lexemeAt text i) with
        | none => exact List.Pairwise.nil
        | some key => exact List.pairwise_singleton _ _
      · cases depthBehind text depth (lexemeAt text i) with
        | none => exact List.Pairwise.nil
        | some depth' => exact ih _ (by omega) _ _ rfl
      · intro key hkey key' hkey'
        have hfirst := offset_of_keyOf? (Option.mem_toList.1 hkey)
        rw [start_lexemeAt] at hfirst
        have hlater : (lexemeAt text i).stop text.length < key'.offset := by
          cases hdepth : depthBehind text depth (lexemeAt text i) with
          | none =>
            rw [hdepth] at hkey'
            cases hkey'
          | some depth' =>
            rw [hdepth] at hkey'
            exact (mem_keysAt_iff.1 hkey').lt_offset
        omega
    · rw [keysAt_of_le (by omega)]
      exact List.Pairwise.nil

lemma arrayKeys_unbounded_eq_keysAt (text : Text) (start : ℤ) :
    arrayKeys text start (-1) = keysAt text 0 .code start.toNat := by
  unfold keysAt
  rw [arrayKeys_unbounded, ← entering_take]

/-- The text from a limit on does not count. -/
lemma arrayKeys_eq_keysAt (text : Text) (start stop : ℤ) : arrayKeys text start stop
    = keysAt (if stop = -1 then text else text.take stop.toNat) 0 .code start.toNat := by
  by_cases hstop : stop = -1
  · rw [if_pos hstop, hstop, arrayKeys_unbounded_eq_keysAt]
  · rw [if_neg hstop, arrayKeys_eq_take hstop, arrayKeys_unbounded_eq_keysAt]

/-- **The keys of an array literal are those at its top level.** The text from `stop` on does not
count, unless `stop` is the number that stands for no limit. In what is left, the scan from `start`
on finds the closed strings at places where the literal itself is the only open bracket, and has
been open all the way, provided that an arrow comes behind them; and it finds them in their
order. -/
theorem arrayKeys_topLevel (text : Text) (start stop : ℤ) :
    let limit := if stop = -1 then text.length else (max 0 (min stop text.length)).toNat
    let keys := arrayKeys text start stop
    (∀ key, key ∈ keys ↔ IsKeyAt (text.take limit) 1 (max 0 start).toNat key)
      ∧ keys.Pairwise fun key key' => key.offset < key'.offset := by
  have hstart : (max 0 start).toNat = start.toNat := by
    omega
  have hlimit : (if stop = -1 then text else text.take stop.toNat)
      = text.take (if stop = -1 then text.length else (max 0 (min stop text.length)).toNat) := by
    by_cases hstop : stop = -1
    · rw [if_pos hstop, if_pos hstop, List.take_length]
    · rw [if_neg hstop, if_neg hstop, List.take_eq_take_iff]
      omega
  dsimp only
  rw [arrayKeys_eq_keysAt, hlimit, hstart]
  exact ⟨fun key => mem_keysAt_iff, keysAt_pairwise _ _ _⟩

/-- Behind a nested literal and a comment there is one more key, unless the limit cuts off the end
of its arrow. -/
example :
    arrayKeys "\x27a\x27 => [\x27b\x27 => 1], /*]*/ \x27c\x27 => 2)".toList 0 (-1)
        = [⟨"a".toList, 1⟩, ⟨"c".toList, 26⟩]
      ∧ arrayKeys "\x27a\x27 => [\x27b\x27 => 1], /*]*/ \x27c\x27 => 2)".toList 0 30
        = [⟨"a".toList, 1⟩] := by
  decide

end Source
end YiiNavigator
