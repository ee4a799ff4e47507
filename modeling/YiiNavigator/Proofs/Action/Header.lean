import YiiNavigator.Action.Catalog
import YiiNavigator.Proofs.Text.Shape

/-!
# Headers of actions

The header of an action is a keyword, blanks, a name that begins with the action prefix and a
capital, and an opening parenthesis (`IsHeader`). The reader of headers accepts nothing else. When
the prefix consists of name characters it accepts all of them, and as no header begins inside of
another one, its occurrences are all the headers of a text (`mem_headers_iff`).
-/

namespace YiiNavigator

/-! ## Blanks, letters and name characters -/

namespace Text

variable {c : Char}

/-- No range of blanks meets one of letters and numbers. -/
lemma blankRanges_disjoint : ∀ blanks ∈ blankRanges, ∀ letters ∈ alphanumericRanges,
    blanks.2 < letters.1 ∨ letters.2 < blanks.1 := by
  decide +kernel

lemma isUpper_iff : c.isUpper = true ↔ 'A'.val ≤ c.val ∧ c.val ≤ 'Z'.val :=
  decide_eq_true_iff

lemma isLower_iff : c.isLower = true ↔ 'a'.val ≤ c.val ∧ c.val ≤ 'z'.val := by
  show (decide _ && decide _) = true ↔ _
  rw [Bool.and_eq_true, decide_eq_true_iff, decide_eq_true_iff]

lemma isDigit_iff : c.isDigit = true ↔ '0'.val ≤ c.val ∧ c.val ≤ '9'.val := by
  show (decide _ && decide _) = true ↔ _
  rw [Bool.and_eq_true, decide_eq_true_iff, decide_eq_true_iff]

/-- The name characters among the ASCII characters come after the blanks. -/
lemma lt_toNat_of_isAlphanum (h : (c.isAlphanum || c == '_') = true) : 0x20 < c.toNat := by
  have htoNat : c.toNat = c.val.toNat := rfl
  have hupper : ('A'.val).toNat = 65 := rfl
  have hlower : ('a'.val).toNat = 97 := rfl
  have hdigit : ('0'.val).toNat = 48 := rfl
  have hclasses : ((c.isUpper || c.isLower || c.isDigit) || c == '_') = true := h
  simp only [Bool.or_eq_true, isUpper_iff, isLower_iff, isDigit_iff, beq_iff_eq,
    UInt32.le_iff_toNat_le] at hclasses
  rcases hclasses with ((h | h) | h) | rfl
  · omega
  · omega
  · omega
  · decide

lemma isNameChar_of_isBlank (h : isBlank c = true) : isNameChar c = false := by
  obtain ⟨blanks, hmem, hlow, hhigh⟩ := inRanges_iff.1 h
  rw [← Bool.not_eq_true, isNameChar]
  split
  · rename_i hascii
    intro hname
    have hranges : ∀ blanks ∈ blankRanges, blanks.2 ≤ 0x20 ∨ 0x80 ≤ blanks.1 := by
      decide
    have := lt_toNat_of_isAlphanum hname
    have := hranges blanks hmem
    omega
  · rw [inRanges_iff]
    rintro ⟨letters, hletters, hlow', hhigh'⟩
    have := blankRanges_disjoint blanks hmem letters hletters
    omega

lemma isBlank_of_isNameChar (h : isNameChar c = true) : isBlank c = false := by
  rw [← Bool.not_eq_true]
  intro hblank
  rw [isNameChar_of_isBlank hblank] at h
  cases h

lemma isCapital_eq_isUpper (c : Char) : isCapital c = c.isUpper := by
  rw [Bool.eq_iff_iff, isUpper_iff, isCapital, Bool.and_eq_true, decide_eq_true_iff,
    decide_eq_true_iff]
  rfl

lemma isUpper_of_isCapital (h : isCapital c = true) : c.isUpper = true := by
  rwa [isCapital_eq_isUpper] at h

lemma isNameChar_of_isCapital (h : isCapital c = true) : isNameChar c = true := by
  have hascii : c.toNat < 0x80 := by
    have htoNat : c.toNat = c.val.toNat := rfl
    have hlast : ('Z'.val).toNat = 90 := rfl
    simp only [isCapital, Bool.and_eq_true, decide_eq_true_eq, Char.le_def,
      UInt32.le_iff_toNat_le] at h
    omega
  rw [isNameChar, if_pos hascii]
  show ((c.isUpper || c.isLower || c.isDigit) || c == '_') = true
  rw [isUpper_of_isCapital h]
  rfl

end Text

namespace Action

/-! ## Names and headers -/

/-- Whether a text consists of blanks. -/
def IsGap (gap : Text) : Prop :=
  ∀ c ∈ gap, Text.isBlank c = true

/-- Whether a name is that of an action: the prefix, a capital, and name characters. -/
def IsActionName (actionPrefix name : Text) : Prop :=
  ∃ capital letters, name = actionPrefix ++ capital :: letters ∧ Text.isCapital capital = true
    ∧ letters.all Text.isNameChar = true

/-- Whether a text begins with the header of an action, of the given name and number of characters:
the keyword, blanks, the name, possibly blanks, and an opening parenthesis. -/
def IsHeader (actionPrefix name : Text) (length : ℕ) (text : Text) : Prop :=
  IsActionName actionPrefix name
    ∧ ∃ gap gap' after, text = "function".toList ++ (gap ++ (name ++ (gap' ++ '(' :: after)))
      ∧ gap ≠ [] ∧ IsGap gap ∧ IsGap gap'
      ∧ length = "function".length + gap.length + name.length + gap'.length + 1

variable {actionPrefix name name' text : Text} {n n' k : ℕ}

lemma IsActionName.ne_nil (h : IsActionName actionPrefix name) : name ≠ [] := by
  obtain ⟨capital, letters, rfl, -⟩ := h
  simp

lemma IsActionName.isNameChar (h : IsActionName actionPrefix name)
    (hchars : ∀ c ∈ actionPrefix, Text.isNameChar c = true) :
    ∀ c ∈ name, Text.isNameChar c = true := by
  obtain ⟨capital, letters, rfl, hcapital, hletters⟩ := h
  intro c hc
  rcases List.mem_append.1 hc with hc | hc
  · exact hchars c hc
  · rcases List.mem_cons.1 hc with rfl | hc
    · exact Text.isNameChar_of_isCapital hcapital
    · exact List.all_eq_true.1 hletters c hc

/-- Blanks and the parenthesis that come after a name do not go on with it. -/
lemma head?_append_parenthesis {gap after : Text} (hgap : IsGap gap) :
    ∀ c ∈ (gap ++ '(' :: after).head?, Text.isNameChar c = false := by
  rcases gap with - | ⟨b, gap⟩
  · rintro _ ⟨⟩
    decide
  · rintro _ ⟨⟩
    exact Text.isNameChar_of_isBlank (hgap b List.mem_cons_self)

/-- A name does not begin with a blank when its prefix has none. -/
lemma IsActionName.head?_append (h : IsActionName actionPrefix name)
    (hchars : ∀ c ∈ actionPrefix, Text.isNameChar c = true) (rest : Text) :
    ∀ c ∈ (name ++ rest).head?, Text.isBlank c = false := by
  obtain ⟨c, name, rfl⟩ := List.exists_cons_of_ne_nil h.ne_nil
  rintro _ ⟨⟩
  exact Text.isBlank_of_isNameChar (h.isNameChar hchars c List.mem_cons_self)

/-! ## The reader of headers -/

/-- The reader of names accepts a name that the text does not go on with. -/
lemma nameReader_eq_some_iff :
    nameReader actionPrefix text = some (name, n)
      ↔ IsActionName actionPrefix name ∧ n = name.length
        ∧ ∃ rest, text = name ++ rest ∧ ∀ c ∈ rest.head?, Text.isNameChar c = false := by
  constructor
  · intro h
    obtain ⟨⟨⟩, _, _, hword, hcapital, rfl⟩ := Reader.bind_eq_some_iff.1 h
    obtain ⟨⟨tail, rfl⟩, rfl⟩ := Reader.word_eq_some_iff.1 hword
    rw [List.drop_left] at hcapital
    obtain ⟨capital, _, _, hone, hrun, rfl⟩ := Reader.bind_eq_some_iff.1 hcapital
    obtain ⟨tail, rfl, hclass, rfl⟩ := Reader.one_eq_some_iff.1 hone
    obtain ⟨letters, _, _, hletters, hreturn, rfl⟩ := Reader.bind_eq_some_iff.1 hrun
    obtain ⟨rfl, rfl⟩ := Reader.pure_eq_some_iff.1 hreturn
    obtain ⟨htake, rfl⟩ := Reader.run_eq_some_iff.1 hletters
    rw [List.drop_one, List.tail_cons] at htake
    obtain ⟨rest, rfl, hall, hrest⟩ := Text.takeWhile_eq_iff.1 htake.symm
    refine ⟨⟨capital, letters, rfl, hclass, List.all_eq_true.2 hall⟩, ?_, rest, ?_, hrest⟩
    · rw [List.length_append, List.length_cons]
      omega
    · rw [List.append_assoc, List.cons_append]
  · rintro ⟨⟨capital, letters, rfl, hcapital, hletters⟩, rfl, rest, rfl, hrest⟩
    have htake : (letters ++ rest).takeWhile Text.isNameChar = letters :=
      Text.takeWhile_append_of_head (List.all_eq_true.1 hletters) hrest
    refine Reader.bind_eq_some_iff.2 ⟨(), actionPrefix.length, 1 + letters.length, ?_, ?_, ?_⟩
    · exact Reader.word_eq_some_iff.2 ⟨⟨capital :: letters ++ rest, by simp⟩, rfl⟩
    · rw [List.append_assoc, List.drop_left]
      refine Reader.bind_eq_some_iff.2 ⟨capital, 1, letters.length, ?_, ?_, rfl⟩
      · exact Reader.one_eq_some_iff.2 ⟨letters ++ rest, rfl, hcapital, rfl⟩
      · refine Reader.bind_eq_some_iff.2 ⟨letters, letters.length, 0, ?_, rfl, rfl⟩
        exact Reader.run_eq_some_iff.2 ⟨htake.symm, rfl⟩
    · rw [List.length_append, List.length_cons]
      omega

/-- What is read as a header is one. -/
lemma isHeader_of_headerReader (h : headerReader actionPrefix text = some (name, n)) :
    IsHeader actionPrefix name n text := by
  -- the steps of the reader: the keyword, the blanks, the name, the parenthesis
  obtain ⟨⟨⟩, _, _, hword, hspaced, rfl⟩ := Reader.bind_eq_some_iff.1 h
  obtain ⟨⟨tail, rfl⟩, rfl⟩ := Reader.word_eq_some_iff.1 hword
  rw [List.drop_left] at hspaced
  obtain ⟨gap, tail, _, rfl, hne, hgap, hheader, rfl⟩ := Reader.exists_of_spaced hspaced
  obtain ⟨declared, _, _, hname, hclose, rfl⟩ := Reader.bind_eq_some_iff.1 hheader
  obtain ⟨haction, rfl, tail, rfl, -⟩ := nameReader_eq_some_iff.1 hname
  rw [List.drop_left] at hclose
  obtain ⟨⟨⟩, _, _, htoken, hreturn, rfl⟩ := Reader.bind_eq_some_iff.1 hclose
  obtain ⟨rfl, rfl⟩ := Reader.pure_eq_some_iff.1 hreturn
  obtain ⟨_, after, rfl, ⟨gap', _, rfl, hgap', rfl⟩, rfl⟩ :=
    (Reader.accepts_token (c := '(') (w := []) (by decide) _ _ _).1 htoken
  refine ⟨haction, gap, gap', after, by simp, hne, hgap, hgap', ?_⟩
  rw [List.length_append]
  show 8 + (gap.length + (name.length + (gap'.length + 1 + 0))) = 8 + _ + _ + _ + 1
  omega

/-- A header is read as such when the prefix consists of name characters. -/
lemma IsHeader.headerReader_eq (h : IsHeader actionPrefix name n text)
    (hchars : ∀ c ∈ actionPrefix, Text.isNameChar c = true) :
    headerReader actionPrefix text = some (name, n) := by
  obtain ⟨haction, gap, gap', after, rfl, hne, hgap, hgap', rfl⟩ := h
  have hname : nameReader actionPrefix (name ++ (gap' ++ '(' :: after))
      = some (name, name.length) :=
    nameReader_eq_some_iff.2 ⟨haction, rfl, _, rfl, head?_append_parenthesis hgap'⟩
  have htoken : Reader.token "(".toList (gap' ++ '(' :: after) = some ((), gap'.length + 1) :=
    (Reader.accepts_token (by decide) _ _ _).2
      ⟨gap' ++ ['('], after, by simp, ⟨gap', ['('], rfl, hgap', rfl⟩, by simp⟩
  have hheader : (do
      let name ← nameReader actionPrefix
      Reader.token "(".toList
      return name : Reader Text) (name ++ (gap' ++ '(' :: after))
        = some (name, name.length + (gap'.length + 1)) := by
    refine Reader.bind_eq_some_iff.2 ⟨name, _, _, hname, ?_, rfl⟩
    rw [List.drop_left]
    exact Reader.bind_eq_some_iff.2 ⟨(), _, 0, htoken, rfl, rfl⟩
  refine Reader.bind_eq_some_iff.2
    ⟨(), 8, gap.length + (name.length + (gap'.length + 1)), ?_, ?_, ?_⟩
  · exact Reader.word_eq_some_iff.2 ⟨List.prefix_append _ _, rfl⟩
  · show Reader.spaced _ (gap ++ _) = _
    exact Reader.spaced_append hne hgap (haction.head?_append hchars _) hheader
  · show 8 + _ + _ + _ + 1 = _
    omega

/-- Whether a header is read depends on the header alone and not on what comes behind it. -/
lemma accepts_headerReader (hchars : ∀ c ∈ actionPrefix, Text.isNameChar c = true) :
    Reader.Accepts (headerReader actionPrefix)
      fun name front => IsHeader actionPrefix name front.length front := by
  intro text name n
  constructor
  · intro h
    obtain ⟨haction, gap, gap', after, rfl, hne, hgap, hgap', rfl⟩ := isHeader_of_headerReader h
    have hlength : ("function".toList ++ (gap ++ (name ++ (gap' ++ ['('])))).length
        = "function".length + gap.length + name.length + gap'.length + 1 := by
      simp only [List.length_append, List.length_singleton, String.length_toList]
      omega
    refine ⟨"function".toList ++ (gap ++ (name ++ (gap' ++ ['(']))), after, by simp, ?_,
      hlength.symm⟩
    exact ⟨haction, gap, gap', [], rfl, hne, hgap, hgap', hlength⟩
  · intro h
    obtain ⟨front, rest, rfl, ⟨haction, gap, gap', after, hfront, hne, hgap, hgap', hn⟩, rfl⟩ := h
    refine IsHeader.headerReader_eq ?_ hchars
    refine ⟨haction, gap, gap', after ++ rest, ?_, hne, hgap, hgap', hn⟩
    rw [hfront]
    simp

/-! ## Headers do not overlap -/

/-- Where the keyword begins again, a header is in the middle of its name. -/
lemma exists_name_drop {gap gap' after : Text} (hgap : IsGap gap) (hgap' : IsGap gap') (hk : 0 < k)
    (hlt : k < "function".length + gap.length + name.length + gap'.length + 1)
    (hkeyword : ("function".toList ++ (gap ++ (name ++ (gap' ++ '(' :: after))))[k]? = some 'f') :
    ∃ front back, name = front ++ back ∧ back ≠ []
      ∧ k = "function".length + gap.length + front.length := by
  have hlength : "function".length = 8 := rfl
  have hblank : ∀ {blanks : Text}, IsGap blanks → 'f' ∉ blanks := fun hblanks hmem =>
    absurd (hblanks 'f' hmem) (by decide)
  by_cases hfront : k < 8 + gap.length
  · -- neither the rest of the keyword nor the blanks behind it have its first character
    obtain ⟨k, rfl⟩ := Nat.exists_eq_succ_of_ne_zero (Nat.ne_of_gt hk)
    have hmem : ("unction".toList ++ gap)[k]? = some 'f' := by
      rw [← List.append_assoc, show "function".toList = 'f' :: "unction".toList from rfl,
        List.cons_append, List.cons_append, List.getElem?_cons_succ,
        List.getElem?_append_left (by simp; omega)] at hkeyword
      exact hkeyword
    rcases List.mem_append.1 (List.mem_of_getElem? hmem) with h | h
    · exact absurd h (by decide)
    · exact absurd h (hblank hgap)
  · by_cases hback : k < 8 + gap.length + name.length
    · refine ⟨name.take (k - (8 + gap.length)), name.drop (k - (8 + gap.length)),
        (List.take_append_drop _ _).symm, ?_, ?_⟩
      · rw [Ne, List.drop_eq_nil_iff]
        omega
      · rw [List.length_take]
        omega
    · -- nor do the blanks behind the name and the parenthesis
      have hmem : (gap' ++ ['('])[k - (8 + gap.length + name.length)]? = some 'f' := by
        have hall : "function".toList ++ (gap ++ (name ++ (gap' ++ '(' :: after)))
            = ("function".toList ++ gap ++ name) ++ ((gap' ++ ['(']) ++ after) := by
          simp
        have hfront : ("function".toList ++ gap ++ name).length = 8 + gap.length + name.length := by
          rw [List.length_append, List.length_append]
          rfl
        rw [hall, List.getElem?_append_right (by omega), hfront,
          List.getElem?_append_left (by simp; omega)] at hkeyword
        exact hkeyword
      rcases List.mem_append.1 (List.mem_of_getElem? hmem) with h | h
      · exact absurd h (hblank hgap')
      · exact absurd h (by decide)

/-- No header begins inside of another one. -/
lemma IsHeader.le_of_drop (hchars : ∀ c ∈ actionPrefix, Text.isNameChar c = true)
    (h : IsHeader actionPrefix name n text) (h' : IsHeader actionPrefix name' n' (text.drop k))
    (hk : 0 < k) : n ≤ k := by
  obtain ⟨haction, gap, gap', after, rfl, -, hgap, hgap', rfl⟩ := h
  obtain ⟨haction', inner, inner', after', hinner, hne, hblanks, -⟩ := h'
  by_contra hlt
  have hkeyword : ("function".toList ++ (gap ++ (name ++ (gap' ++ '(' :: after))))[k]?
      = some 'f' := by
    rw [← List.head?_drop, hinner]
    rfl
  obtain ⟨front, back, rfl, -, rfl⟩ := exists_name_drop hgap hgap' hk (by omega) hkeyword
  have hdrop : ("function".toList ++ (gap ++ (front ++ back ++ (gap' ++ '(' :: after)))).drop
      ("function".length + gap.length + front.length) = back ++ (gap' ++ '(' :: after) := by
    have hfront : ("function".toList ++ gap ++ front).length
        = "function".length + gap.length + front.length := by
      rw [List.length_append, List.length_append]
      rfl
    have hsplit : "function".toList ++ (gap ++ (front ++ back ++ (gap' ++ '(' :: after)))
        = ("function".toList ++ gap ++ front) ++ (back ++ (gap' ++ '(' :: after)) := by
      simp
    rw [hsplit, ← hfront, List.drop_left]
  rw [hdrop] at hinner
  -- the rest of the name would be the keyword, and the parenthesis would begin another name
  have hback : ∀ c ∈ back, Text.isNameChar c = true := fun c hc =>
    haction.isNameChar hchars c (List.mem_append_right _ hc)
  have hinnerBlank : ∀ c ∈ (inner ++ (name' ++ (inner' ++ '(' :: after'))).head?,
      Text.isNameChar c = false := by
    obtain ⟨b, inner, rfl⟩ := List.exists_cons_of_ne_nil hne
    rintro _ ⟨⟩
    exact Text.isNameChar_of_isBlank (hblanks b List.mem_cons_self)
  obtain ⟨-, hgaps⟩ := Text.append_inj_of_head hback (head?_append_parenthesis hgap')
    (List.all_eq_true.1 rfl) hinnerBlank hinner
  have hparenthesis : ∀ c ∈ ('(' :: after).head?, Text.isBlank c = false := by
    rintro _ ⟨⟩
    decide
  obtain ⟨-, hname⟩ := Text.append_inj_of_head hgap' hparenthesis hblanks
    (haction'.head?_append hchars _) hgaps
  obtain ⟨c, tail, rfl⟩ := List.exists_cons_of_ne_nil haction'.ne_nil
  have hc := haction'.isNameChar hchars c List.mem_cons_self
  rw [← (List.cons.inj hname).1] at hc
  exact absurd hc (by decide)

lemma isApart_headerReader (hchars : ∀ c ∈ actionPrefix, Text.isNameChar c = true) :
    Reader.IsApart (headerReader actionPrefix) := by
  intro text k name n name' n' h h' hk
  exact (isHeader_of_headerReader h).le_of_drop hchars (isHeader_of_headerReader h') hk

/-- The occurrences of the reader are all the headers of a text. -/
lemma mem_headers_iff (hchars : ∀ c ∈ actionPrefix, Text.isNameChar c = true) :
    ⟨k, n, name⟩ ∈ (headerReader actionPrefix).occurrences text
      ↔ IsHeader actionPrefix name n (text.drop k) := by
  constructor
  · intro h
    obtain ⟨start, hstart, hread⟩ := Reader.read_of_mem_occurrencesFrom h
    obtain rfl : k = start := by simpa using hstart
    exact isHeader_of_headerReader hread
  · intro h
    have hlt : k < text.length := by
      obtain ⟨-, gap, gap', after, htext, -⟩ := h
      rw [← Nat.not_le, ← List.drop_eq_nil_iff, htext]
      simp
    rcases Reader.exists_occurrence hlt (h.headerReader_eq hchars) with hmem | ⟨o, ho, hin⟩
    · exact hmem
    · -- an earlier header that goes on here would overlap with this one
      obtain ⟨start, hstart, hread⟩ := Reader.read_of_mem_occurrencesFrom ho
      rw [Nat.zero_add] at hstart
      have hdrop : text.drop k = (text.drop start).drop (k - start) := by
        rw [List.drop_drop]
        congr 1
        omega
      rw [hdrop] at h
      have := (isHeader_of_headerReader hread).le_of_drop hchars h (by omega)
      simp only [Occurrence.stop] at hin
      omega

end Action
end YiiNavigator
