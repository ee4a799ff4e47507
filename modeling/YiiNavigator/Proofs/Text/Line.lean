import YiiNavigator.Proofs.Text.Position

/-!
# Lines of a text

A text is cut into lines at its line feeds. Every offset of the text is a place on one of its lines
and every such place is the position of one offset, in the same order
(`positionAt_offsetAt_correspond`). A position outside the text is moved to the nearest place in its
own row, or to an end of the text when there is no such row.
-/

namespace YiiNavigator

namespace Position

/-- Strict text order: an earlier row, or an earlier column of the same row. -/
def IsBefore (p q : Position) : Prop :=
  p.row < q.row ∨ p.row = q.row ∧ p.column < q.column

lemma IsBefore.trans {p q r : Position} (hpq : p.IsBefore q) (hqr : q.IsBefore r) :
    p.IsBefore r := by
  unfold IsBefore at hpq hqr ⊢
  omega

lemma isBefore_advance (p : Position) (c : Char) : p.IsBefore (p.advance c) := by
  unfold IsBefore advance
  by_cases hc : c = '\n'
  · rw [if_pos hc]
    show p.row < p.row + 1 ∨ _
    omega
  · rw [if_neg hc]
    show _ ∨ p.row = p.row ∧ p.column < p.column + 1
    omega

end Position

namespace Text

variable {text line : Text} {row column m n : ℕ}

/-! ## Cutting at line feeds -/

/-- The lines of a text, without the line feeds that end them. -/
def lines (text : Text) : List Text :=
  text.splitOn '\n'

/-- Whether a text has a position: there is such a row, and its line reaches to the column. -/
def HasPosition (text : Text) (p : Position) : Prop :=
  ∃ (row column : ℕ) (line : Text), p = ⟨row, column⟩ ∧ text.lines[row]? = some line
    ∧ column ≤ line.length

lemma lines_lineFeed_cons (rest : Text) : lines ('\n' :: rest) = [] :: lines rest := by
  show List.splitOn '\n' _ = _
  rw [List.splitOn_cons_eq_if_modifyHead]
  rfl

lemma lines_cons {c : Char} (hc : c ≠ '\n') (rest : Text) :
    lines (c :: rest) = (lines rest).modifyHead (c :: ·) := by
  show List.splitOn '\n' _ = _
  rw [List.splitOn_cons_eq_if_modifyHead, if_neg (by simpa using hc)]
  rfl

lemma length_lines (text : Text) : text.lines.length = text.lineCount := by
  induction text with
  | nil => rfl
  | cons c rest ih =>
    by_cases hc : c = '\n'
    · subst hc
      rw [lines_lineFeed_cons, List.length_cons, ih]
      simp [lineCount]
    · rw [lines_cons hc, List.length_modifyHead, ih]
      simp [lineCount, List.count_cons_of_ne hc]

/-- The first line is what comes before the first line feed. -/
lemma getElem?_lines_zero (text : Text) : text.lines[0]? = some (text.takeWhile (· ≠ '\n')) := by
  induction text with
  | nil => rfl
  | cons c rest ih =>
    by_cases hc : c = '\n'
    · subst hc
      rw [lines_lineFeed_cons]
      rfl
    · rw [lines_cons hc, List.getElem?_modifyHead_zero, ih,
        List.takeWhile_cons_of_pos (by simpa using hc)]
      rfl

/-! ## The place of an offset on its line -/

/-- The text before a place of the first line is a part of that line. -/
lemma take_offsetOnLine_zero (text : Text) (column : ℕ) :
    offsetOnLine column 0 text ≤ text.length
      ∧ (text.take (offsetOnLine column 0 text)).count '\n' = 0
      ∧ lastColumn (text.take (offsetOnLine column 0 text))
        = min column (text.takeWhile (· ≠ '\n')).length := by
  have hprefix := List.takeWhile_prefix (l := text) (· ≠ '\n')
  have hlength := hprefix.length_le
  have htake : text.take (min column (text.takeWhile (· ≠ '\n')).length)
      = (text.takeWhile (· ≠ '\n')).take column := by
    conv_rhs => rw [List.prefix_iff_eq_take.1 hprefix, List.take_take]
  have hline : '\n' ∉ (text.takeWhile (· ≠ '\n')).take column := by
    intro hmem
    have := List.mem_takeWhile_imp (List.mem_of_mem_take hmem)
    simp at this
  rw [offsetOnLine, htake, List.count_eq_zero.2 hline, lastColumn_eq_length hline,
    List.length_take]
  exact ⟨by omega, rfl, rfl⟩

/-- The text before a place on a line: it has the line feeds of the rows above, and behind the last
of them as many characters as the column says, or as the line has. -/
lemma take_offsetOnLine (h : text.lines[row]? = some line) (column : ℕ) :
    offsetOnLine column row text ≤ text.length
      ∧ (text.take (offsetOnLine column row text)).count '\n' = row
      ∧ lastColumn (text.take (offsetOnLine column row text)) = min column line.length := by
  induction text generalizing row with
  | nil =>
    -- the empty text has one line, which is empty
    rcases row with - | row
    · obtain rfl : [] = line := Option.some.inj h
      exact take_offsetOnLine_zero [] column
    · cases h
  | cons c rest ih =>
    rcases row with - | row
    · rw [getElem?_lines_zero, Option.some.injEq] at h
      rw [← h]
      exact take_offsetOnLine_zero (c :: rest) column
    · -- a character above the row: one more line feed, or one more character before it
      by_cases hc : c = '\n'
      · subst hc
        rw [lines_lineFeed_cons, List.getElem?_cons_succ] at h
        obtain ⟨hle, hcount, hcolumn⟩ := ih h
        rw [offsetOnLine, if_pos rfl, Nat.add_comm, List.take_succ_cons,
          lastColumn_cons List.mem_cons_self, List.count_cons_self, hcount, hcolumn,
          List.length_cons]
        exact ⟨by omega, rfl, rfl⟩
      · rw [lines_cons hc, List.getElem?_modifyHead_succ] at h
        obtain ⟨hle, hcount, hcolumn⟩ := ih h
        have hmem : '\n' ∈ rest.take (offsetOnLine column (row + 1) rest) := by
          apply List.count_pos_iff.1
          omega
        rw [offsetOnLine, if_neg hc, Nat.add_comm, List.take_succ_cons,
          lastColumn_cons (List.mem_cons_of_mem _ hmem), List.count_cons_of_ne hc, hcount,
          hcolumn, List.length_cons]
        exact ⟨by omega, rfl, rfl⟩

/-- Below the last line there is only the end of the text. -/
lemma offsetOnLine_of_lineCount_le (h : text.lineCount ≤ row) (column : ℕ) :
    offsetOnLine column row text = text.length := by
  induction text generalizing row with
  | nil =>
    obtain ⟨row, rfl⟩ := Nat.exists_eq_add_of_le' h
    rfl
  | cons c rest ih =>
    unfold lineCount at h ih
    obtain ⟨row, rfl⟩ := Nat.exists_eq_add_of_le' (Nat.le_trans (Nat.le_add_left 1 _) h)
    rw [offsetOnLine, List.length_cons, Nat.add_comm]
    congr 1
    by_cases hc : c = '\n'
    · subst hc
      rw [List.count_cons_self] at h
      rw [if_pos rfl]
      exact ih (by omega)
    · rw [List.count_cons_of_ne hc] at h
      rw [if_neg hc]
      exact ih h

/-! ## Order -/

/-- One character on, the position advances by it. -/
lemma positionAt_succ (h : n < text.length) :
    text.positionAt (n + 1 : ℕ) = (text.positionAt n).advance text[n] := by
  unfold positionAt
  rw [clamp_natCast h, clamp_natCast (Nat.le_of_lt h), List.take_add_one,
    List.getElem?_eq_getElem h, List.foldl_append]
  rfl

lemma positionAt_isBefore (hlt : m < n) (hn : n ≤ text.length) :
    (text.positionAt m).IsBefore (text.positionAt n) := by
  induction n with
  | zero => omega
  | succ n ih =>
    have hstep : (text.positionAt n).IsBefore (text.positionAt (n + 1 : ℕ)) := by
      rw [positionAt_succ hn]
      exact Position.isBefore_advance _ _
    by_cases hm : m = n
    · subst hm
      exact hstep
    · exact (ih (by omega) (by omega)).trans hstep

/-- A place of the first line comes before the places of all later rows. -/
lemma offsetOnLine_zero_le (column column' row : ℕ) (text : Text) :
    offsetOnLine column 0 text ≤ offsetOnLine column' (row + 1) text := by
  induction text with
  | nil => exact Nat.min_le_right _ _
  | cons c rest ih =>
    rw [offsetOnLine, offsetOnLine]
    by_cases hc : c = '\n'
    · -- the first line is empty, so that its only place is the offset zero
      rw [List.takeWhile_cons_of_neg (by simpa using hc)]
      exact Nat.le_trans (Nat.min_le_right _ _) (Nat.zero_le _)
    · rw [List.takeWhile_cons_of_pos (by simpa using hc), if_neg hc, List.length_cons]
      rw [offsetOnLine] at ih
      omega

/-- The places of a row come before those of all later rows. -/
lemma offsetOnLine_le_of_lt {row row' : ℕ} (h : row < row') (column column' : ℕ) (text : Text) :
    offsetOnLine column row text ≤ offsetOnLine column' row' text := by
  obtain ⟨row', rfl⟩ := Nat.exists_eq_add_one.2 (Nat.zero_lt_of_lt h)
  induction text generalizing row row' with
  | nil =>
    rcases row with - | row
    · exact offsetOnLine_zero_le column column' row' []
    · exact Nat.le_refl 0
  | cons c rest ih =>
    rcases row with - | row
    · exact offsetOnLine_zero_le column column' row' (c :: rest)
    · rw [offsetOnLine, offsetOnLine]
      by_cases hc : c = '\n'
      · -- a line feed takes one row off both, and they stay as far apart
        rw [if_pos hc, if_pos hc]
        obtain ⟨row', rfl⟩ := Nat.exists_eq_add_one.2 (Nat.zero_lt_of_lt (Nat.lt_of_succ_lt_succ h))
        exact Nat.add_le_add_left (ih row' (Nat.lt_of_succ_lt_succ h)) 1
      · rw [if_neg hc, if_neg hc]
        exact Nat.add_le_add_left (ih row' h) 1

lemma offsetOnLine_mono (row : ℕ) {column column' : ℕ} (h : column ≤ column') (text : Text) :
    offsetOnLine column row text ≤ offsetOnLine column' row text := by
  induction text generalizing row with
  | nil =>
    rcases row with - | row
    · rw [offsetOnLine, offsetOnLine]
      omega
    · exact Nat.le_refl 0
  | cons c rest ih =>
    rcases row with - | row
    · rw [offsetOnLine, offsetOnLine]
      omega
    · exact Nat.add_le_add_left (ih _) 1

/-- A later position, of the text or not, has no earlier offset. -/
lemma offsetAt_mono {p q : Position} (h : p.precedes q = true) :
    text.offsetAt p ≤ text.offsetAt q := by
  simp only [Position.precedes, decide_eq_true_eq] at h
  unfold offsetAt
  by_cases hp : p.row < 0
  · -- a row in front of the text is moved to its start
    rw [if_pos hp]
    exact Nat.zero_le _
  · rw [if_neg hp, if_neg (by omega)]
    rcases h with hrow | ⟨hrow, hcolumn⟩
    · exact offsetOnLine_le_of_lt (by omega) _ _ text
    · rw [hrow]
      exact offsetOnLine_mono _ (by omega) text

/-! ## Positions outside the text -/

/-- A position in a row of the text is moved to the nearest place on the line of that row. -/
lemma positionAt_offsetAt_of_line {p : Position} (hrow : p.row = row)
    (h : text.lines[row]? = some line) :
    text.positionAt (text.offsetAt p) = ⟨row, max 0 (min p.column line.length)⟩ := by
  obtain ⟨hle, hcount, hcolumn⟩ := take_offsetOnLine h p.column.toNat
  have hoffset : text.offsetAt p = offsetOnLine p.column.toNat row text := by
    rw [offsetAt, hrow, if_neg (by omega), Int.toNat_natCast]
  rw [hoffset, positionAt_eq, clamp_natCast hle, hcount, hcolumn, Position.mk.injEq]
  exact ⟨rfl, by omega⟩

/-- A position below the last line is moved to the end of the text. -/
lemma positionAt_offsetAt_of_lineCount_le {p : Position} (h : text.lineCount ≤ p.row) :
    text.positionAt (text.offsetAt p) = text.positionAt text.length := by
  have hoffset : text.offsetAt p = text.length := by
    rw [offsetAt, if_neg (by omega)]
    exact offsetOnLine_of_lineCount_le (by omega) _
  rw [hoffset]

/-- A position above the first line is moved to the front of the text. -/
lemma positionAt_offsetAt_of_neg {p : Position} (h : p.row < 0) :
    text.positionAt (text.offsetAt p) = .origin := by
  rw [offsetAt, if_pos h]
  rfl

/-- Only the positions of the text stay where they are. -/
lemma positionAt_offsetAt_eq_self_iff {p : Position} :
    text.positionAt (text.offsetAt p) = p ↔ text.HasPosition p := by
  constructor
  · intro h
    -- the row is neither above the text nor below it, so that it has a line
    have hnonneg : 0 ≤ p.row := by
      by_contra hneg
      rw [positionAt_offsetAt_of_neg (by omega)] at h
      apply hneg
      rw [← h]
      exact Int.le_refl 0
    have hlt : p.row < text.lineCount := by
      by_contra hle
      rw [positionAt_offsetAt_of_lineCount_le (by omega), positionAt_eq, clamp_natCast le_rfl,
        List.take_length] at h
      apply hle
      rw [← h]
      show ((text.count '\n' : ℕ) : ℤ) < ((text.count '\n' + 1 : ℕ) : ℤ)
      omega
    have hrow : p.row.toNat < text.lines.length := by
      rw [length_lines]
      omega
    have hnat : p.row = p.row.toNat := by omega
    have hplace := positionAt_offsetAt_of_line hnat (List.getElem?_eq_getElem hrow)
    rw [h] at hplace
    have hcolumn : p.column = max 0 (min p.column _) := congrArg Position.column hplace
    refine ⟨p.row.toNat, p.column.toNat, _, ?_, List.getElem?_eq_getElem hrow, ?_⟩
    · rw [Int.toNat_of_nonneg hnonneg, Int.toNat_of_nonneg (by omega)]
    · omega
  · intro h
    obtain ⟨row, column, line, rfl, hline, hle⟩ := h
    rw [positionAt_offsetAt_of_line rfl hline, Position.mk.injEq]
    refine ⟨rfl, ?_⟩
    show max 0 (min (column : ℤ) line.length) = column
    omega

/-- **Offsets and positions correspond exactly.** The position of an offset counts the line feeds
before the offset, held inside the text, and the characters behind the last of them; it leads back
to that offset, and later offsets have later positions. The other way round a position leads to
the nearest place in its row, or to an end of the text when it has no such row, and so back to
itself exactly when the text has it. -/
theorem positionAt_offsetAt_correspond (text : Text) :
    (∀ offset : ℤ, ∃ place : ℕ, (place : ℤ) = max 0 (min offset text.length)
        ∧ text.positionAt offset
          = ⟨(text.take place).count '\n', lastColumn (text.take place)⟩
        ∧ text.offsetAt (text.positionAt offset) = place)
      ∧ (∀ m n : ℕ, m < n → n ≤ text.length →
        (text.positionAt m).IsBefore (text.positionAt n))
      ∧ text.lines.length = text.lineCount
      ∧ ∀ p : Position,
        (p.row < 0 → text.positionAt (text.offsetAt p) = .origin)
        ∧ (text.lineCount ≤ p.row →
          text.positionAt (text.offsetAt p) = text.positionAt text.length)
        ∧ (∀ (row : ℕ) (line : Text), p.row = row → text.lines[row]? = some line →
          text.positionAt (text.offsetAt p) = ⟨row, max 0 (min p.column line.length)⟩)
        ∧ (text.positionAt (text.offsetAt p) = p ↔ text.HasPosition p) := by
  refine ⟨fun offset => ?_, fun m n hlt hn => positionAt_isBefore hlt hn, length_lines text,
    fun p => ?_⟩
  · refine ⟨text.clamp offset, ?_, positionAt_eq text offset, offsetAt_positionAt text offset⟩
    unfold clamp
    omega
  · exact ⟨positionAt_offsetAt_of_neg, positionAt_offsetAt_of_lineCount_le,
      fun row line => positionAt_offsetAt_of_line, positionAt_offsetAt_eq_self_iff⟩

/-- A text with an empty line in it and a line feed at its end. -/
theorem positionAt_offsetAt_correspond_lineFeeds :
    let text : Text := "ab\n\nc\n".toList
    ((2 : ℕ) < 3 ∧ 3 ≤ text.length ∧ (text.positionAt (2 : ℕ)).IsBefore (text.positionAt (3 : ℕ)))
      ∧ (text.lineCount ≤ (4 : ℤ)
        ∧ text.positionAt (text.offsetAt ⟨4, 0⟩) = text.positionAt text.length)
      ∧ text.lines[1]? = some []
      ∧ text.positionAt (text.offsetAt ⟨1, 7⟩) = ⟨1, 0⟩ := by
  intro text
  obtain ⟨-, hbefore, -, hplaces⟩ := positionAt_offsetAt_correspond text
  have hbelow : text.lineCount ≤ (4 : ℤ) := by decide
  have hline : text.lines[1]? = some [] := by decide
  exact ⟨⟨by decide, by decide, hbefore 2 3 (by decide) (by decide)⟩,
    ⟨hbelow, (hplaces ⟨4, 0⟩).2.1 hbelow⟩, hline, (hplaces ⟨1, 7⟩).2.2.1 1 [] rfl hline⟩

end Text
end YiiNavigator
