import YiiNavigator.Proofs.Source.Lexeme
import YiiNavigator.Source.Body
import Mathlib.Data.Int.Notation

/-!
# Where a body lies

The search for a body runs through a source text once and counts braces as it goes. Its result is
compared with a description in two stages: the text is cut into pieces of code, strings and
comments (`codeOffsets`), and the braces of the body are then told by counting among the
characters of code (`bodyBounds`).
-/

namespace YiiNavigator
namespace Source

/-! ## The bounds by counting -/

/-- The number of times a character stands at one of some offsets, from `start` up to `stop`. -/
def countWithin (text : Text) (code : List ℕ) (c : Char) (start stop : ℕ) : ℕ :=
  code.countP fun i => isAt text c i && decide (start ≤ i) && decide (i < stop)

/-- Whether the body that is opened at `start` may end at an offset: a closing brace stands there,
and from the start up to it as many braces open as close. -/
def endsBody (text : Text) (code : List ℕ) (start i : ℕ) : Bool :=
  isAt text '}' i && decide (start < i)
    && countWithin text code '{' start (i + 1) == countWithin text code '}' start (i + 1)

/-- The offset of the brace that opens a body and the offset just after the one that closes it,
given the offsets of code. There are none when no brace opens or a semicolon comes first. -/
def bodyBounds (text : Text) (code : List ℕ) : Option ℕ × Option ℕ :=
  match code.find? (isAt text '{') with
  | none => (none, none)
  | some start =>
    if code.any fun i => isAt text ';' i && decide (i < start) then (none, none)
    else (some start, (code.find? (endsBody text code start)).map (· + 1))

/-! ## The search over offsets of code -/

/-- The end of a body opened at `start` among offsets of code, `depth` inner braces being open. -/
def closingAmong (text : Text) (start depth : ℕ) : List ℕ → Body
  | [] => .unclosed start
  | i :: rest =>
    if isAt text '{' i then closingAmong text start (depth + 1) rest
    else if isAt text '}' i then
      match depth with
      | 0 => .closed start (i + 1)
      | depth + 1 => closingAmong text start depth rest
    else closingAmong text start depth rest

/-- The body that is opened among offsets of code. -/
def openingAmong (text : Text) : List ℕ → Body
  | [] => .absent
  | i :: rest =>
    if isAt text ';' i then .absent
    else if isAt text '{' i then closingAmong text i 0 rest
    else openingAmong text rest

/-- Braces and semicolons in code do not lead out of it. -/
lemma leaveCode_eq_code {c : Char} (h : c = '{' ∨ c = '}' ∨ c = ';') (escaped : Bool)
    (following : Option Char) : Lexer.leaveCode escaped c following = .code := by
  rcases h with rfl | rfl | rfl <;> simp [Lexer.leaveCode, Reader.isQuote]

/-- A character that the lexer reads in code is one of the offsets of code, unless it opens a
string or a comment. -/
lemma codeFromAt_code_of_lt {text : Text} {i : ℕ} (h : i < text.length) :
    ∃ region, (stateAt text .code i).regionAfter text[i] text[i + 1]? = region
      ∧ (codeFromAt text .code i = i :: codeFromAt text region (i + 1)
        ∨ codeFromAt text .code i = codeFromAt text region (i + 1)
          ∧ isAt text '{' i = false ∧ isAt text '}' i = false ∧ isAt text ';' i = false) := by
  refine ⟨_, rfl, ?_⟩
  rw [codeFromAt_of_lt h]
  by_cases hstay : (stateAt text .code i).regionAfter text[i] text[i + 1]? = .code
  · rw [if_pos ⟨rfl, hstay⟩]
    exact Or.inl rfl
  · have hmark : ¬(text[i] = '{' ∨ text[i] = '}' ∨ text[i] = ';') :=
      fun hmark => hstay (leaveCode_eq_code hmark _ _)
    rw [if_neg (fun hc => hstay hc.2)]
    refine Or.inr ⟨rfl, ?_⟩
    simpa [isAt, h] using hmark

/-- The search for the end of a body looks at the characters of code only. -/
lemma findClosing_eq_closingAmong (text : Text) (start depth : ℕ) (region : Region) (i : ℕ) :
    Body.findClosing start depth (stateAt text region i) i (text.drop i)
      = closingAmong text start depth (codeFromAt text region i) := by
  -- on what is left of the text, for every region: the lexer may leave code and come back
  induction hn : text.length - i generalizing depth region i with
  | zero =>
    rw [List.drop_eq_nil_of_le (by omega), codeFromAt_of_le (by omega)]
    rfl
  | succ n ih =>
    have h : i < text.length := by omega
    have hrest (depth : ℕ) (region : Region) := ih depth region (i + 1) (by omega)
    have hregion : (stateAt text region i).region = region := rfl
    have hat (c : Char) : text[i] = c ↔ isAt text c i = true := by simp [isAt, h]
    rw [List.drop_eq_getElem_cons h, Body.findClosing.eq_def]
    simp only [List.head?_drop, stateAt_next h, hregion, hat, hrest]
    by_cases hcode : region = .code
    · subst hcode
      obtain ⟨region, hafter, hread | ⟨hread, hopen, hclose, -⟩⟩ := codeFromAt_code_of_lt h
      · rw [hread, hafter]
        cases depth <;> simp [closingAmong]
      · rw [hread, hafter, hopen, hclose]
        simp
    · rw [codeFromAt_of_ne_code h hcode]
      simp [hcode]

/-- The search for a body looks at the characters of code only. -/
lemma findOpening_eq_openingAmong (text : Text) (region : Region) (i : ℕ) :
    Body.findOpening (stateAt text region i) i (text.drop i)
      = openingAmong text (codeFromAt text region i) := by
  induction hn : text.length - i generalizing region i with
  | zero =>
    rw [List.drop_eq_nil_of_le (by omega), codeFromAt_of_le (by omega)]
    rfl
  | succ n ih =>
    have h : i < text.length := by omega
    have hrest (region : Region) := ih region (i + 1) (by omega)
    have hregion : (stateAt text region i).region = region := rfl
    have hat (c : Char) : text[i] = c ↔ isAt text c i = true := by simp [isAt, h]
    rw [List.drop_eq_getElem_cons h, Body.findOpening, List.head?_drop, stateAt_next h]
    simp only [hregion, hat, hrest, findClosing_eq_closingAmong]
    by_cases hcode : region = .code
    · subst hcode
      obtain ⟨region, hafter, hread | ⟨hread, hopen, -, hend⟩⟩ := codeFromAt_code_of_lt h
      · rw [hread, hafter, openingAmong]
        simp only [true_and]
      · rw [hread, hafter, hopen, hend]
        simp
    · rw [codeFromAt_of_ne_code h hcode]
      simp [hcode]

lemma find_eq_openingAmong (text : Text) (offset : ℤ) :
    Body.find text offset = openingAmong text (codeOffsets text offset.toNat) := by
  rw [Body.find, entering_take, findOpening_eq_openingAmong, codeFromAt_code]

/-! ## Counting braces on the way -/

/-- The number of times a character stands at one of some offsets from `start` on. -/
def countFrom (text : Text) (seen : List ℕ) (c : Char) (start : ℕ) : ℕ :=
  seen.countP fun i => isAt text c i && decide (start ≤ i)

/-- Behind the offsets that have been seen, `depth` inner braces of the body are open. -/
def HasDepth (text : Text) (start depth : ℕ) (seen : List ℕ) : Prop :=
  countFrom text seen '{' start = countFrom text seen '}' start + depth + 1

lemma countFrom_append_singleton {text : Text} {i start : ℕ} (h : start ≤ i) (seen : List ℕ)
    (c : Char) :
    countFrom text (seen ++ [i]) c start
      = countFrom text seen c start + if isAt text c i then 1 else 0 := by
  rw [countFrom, List.countP_append]
  congr 1
  simp [List.countP_cons, h]

lemma countWithin_append {text : Text} {seen rest : List ℕ} {stop : ℕ}
    (hseen : ∀ i ∈ seen, i < stop) (hrest : ∀ i ∈ rest, stop ≤ i) (c : Char) (start : ℕ) :
    countWithin text (seen ++ rest) c start stop = countFrom text seen c start := by
  rw [countWithin, countFrom, List.countP_append]
  have hzero : rest.countP (fun i => isAt text c i && decide (start ≤ i) && decide (i < stop))
      = 0 := by
    rw [List.countP_eq_zero]
    intro i hi
    have := hrest i hi
    simp only [Bool.and_eq_true, decide_eq_true_eq]
    omega
  rw [hzero, Nat.add_zero]
  refine List.countP_congr fun i hi => ?_
  simp [hseen i hi]

/-! ### Offsets in their order -/

section

variable {seen rest : List ℕ} {i j : ℕ}

lemma lt_of_mem_seen (hcode : (seen ++ i :: rest).Pairwise (· < ·)) (hj : j ∈ seen) : j < i :=
  (List.pairwise_append.1 hcode).2.2 j hj i List.mem_cons_self

lemma lt_of_mem_rest (hcode : (seen ++ i :: rest).Pairwise (· < ·)) (hj : j ∈ rest) : i < j :=
  (List.pairwise_cons.1 (List.pairwise_append.1 hcode).2.1).1 j hj

lemma le_of_mem_concat (hcode : (seen ++ i :: rest).Pairwise (· < ·)) (hj : j ∈ seen ++ [i]) :
    j ≤ i := by
  rcases List.mem_append.1 hj with hj | hj
  · exact Nat.le_of_lt (lt_of_mem_seen hcode hj)
  · exact Nat.le_of_eq (List.mem_singleton.1 hj)

end

lemma isAt_unique {text : Text} {a b : Char} {i : ℕ} (ha : isAt text a i = true) (hab : a ≠ b) :
    isAt text b i = false := by
  simp only [isAt, beq_iff_eq] at ha
  simp [isAt, ha, hab]

section

variable {text : Text} {start depth i : ℕ} {seen rest : List ℕ}

/-- One more offset behind the start of the body: either the body ends there and as many braces have
opened as closed, or the search goes on at a depth that agrees with the count. -/
lemma closingAmong_cons (hdepth : HasDepth text start depth seen) (h : start ≤ i)
    (rest : List ℕ) :
    (closingAmong text start depth (i :: rest) = .closed start (i + 1) ∧ isAt text '}' i = true
        ∧ countFrom text (seen ++ [i]) '{' start = countFrom text (seen ++ [i]) '}' start)
      ∨ ∃ depth', closingAmong text start depth (i :: rest) = closingAmong text start depth' rest
        ∧ HasDepth text start depth' (seen ++ [i]) := by
  unfold HasDepth at hdepth ⊢
  rw [closingAmong.eq_def, countFrom_append_singleton h, countFrom_append_singleton h]
  -- an opening brace, a closing brace that ends the body or an inner block, or another character
  by_cases hopen : isAt text '{' i = true
  · have hclose := isAt_unique (b := '}') hopen (by decide)
    refine Or.inr ⟨depth + 1, by simp only [hopen, if_true], ?_⟩
    simp only [hopen, hclose, if_true, Bool.false_eq_true, if_false]
    omega
  · by_cases hclose : isAt text '}' i = true
    · simp only [hopen, hclose, if_true, Bool.false_eq_true, if_false]
      rcases depth with - | depth
      · exact Or.inl ⟨rfl, trivial, by omega⟩
      · exact Or.inr ⟨depth, rfl, by omega⟩
    · refine Or.inr ⟨depth, by simp only [hopen, hclose, Bool.false_eq_true, if_false], ?_⟩
      simp only [hopen, hclose, Bool.false_eq_true, if_false]
      omega

lemma countWithin_succ (hcode : (seen ++ i :: rest).Pairwise (· < ·)) (c : Char) :
    countWithin text (seen ++ i :: rest) c start (i + 1)
      = countFrom text (seen ++ [i]) c start := by
  rw [List.append_cons]
  refine countWithin_append (fun j hj => ?_) (fun j hj => lt_of_mem_rest hcode hj) c start
  have := le_of_mem_concat hcode hj
  omega

lemma endsBody_iff (hcode : (seen ++ i :: rest).Pairwise (· < ·)) (hstart : start ∈ seen) :
    endsBody text (seen ++ i :: rest) start i = true
      ↔ isAt text '}' i = true
        ∧ countFrom text (seen ++ [i]) '{' start = countFrom text (seen ++ [i]) '}' start := by
  have hlt : start < i := lt_of_mem_seen hcode hstart
  rw [endsBody, countWithin_succ hcode, countWithin_succ hcode]
  simp [hlt]

/-- The search stops at the first offset where the count says that the body ends. -/
lemma closingAmong_eq_find? (hcode : (seen ++ rest).Pairwise (· < ·)) (hstart : start ∈ seen)
    (hdepth : HasDepth text start depth seen) :
    closingAmong text start depth rest
      = (rest.find? (endsBody text (seen ++ rest) start)).elim (.unclosed start)
          fun i => .closed start (i + 1) := by
  induction rest generalizing seen depth with
  | nil => rfl
  | cons i rest ih =>
    have hlt : start < i := lt_of_mem_seen hcode hstart
    have hends : endsBody text (seen ++ i :: rest) start i = true ↔ _ := endsBody_iff hcode hstart
    rcases closingAmong_cons hdepth (Nat.le_of_lt hlt) rest with
      ⟨hclosed, hbrace⟩ | ⟨depth', hgo, hnext⟩
    · rw [hclosed, List.find?_cons_of_pos (hends.2 hbrace)]
      rfl
    · -- at every later depth the count is off by one at least, so the body cannot end here
      have hno : ¬endsBody text (seen ++ i :: rest) start i = true := by
        rw [hends, hnext]
        omega
      rw [hgo, List.find?_cons_of_neg hno]
      rw [List.append_cons] at hcode ⊢
      exact ih hcode (List.mem_append_left _ hstart) hnext

/-- Before the end of a body more of its braces have opened than closed. -/
lemma countWithin_lt_of_closingAmong {stop k : ℕ} (hcode : (seen ++ rest).Pairwise (· < ·))
    (hstart : start ∈ seen) (hdepth : HasDepth text start depth seen)
    (hclosed : closingAmong text start depth rest = .closed start stop)
    (hk : ∀ j ∈ seen, j < k) (hstop : k < stop) :
    countWithin text (seen ++ rest) '}' start k < countWithin text (seen ++ rest) '{' start k := by
  induction rest generalizing seen depth with
  | nil => cases hclosed
  | cons i rest ih =>
    by_cases hki : k ≤ i
    · -- nothing from `i` on counts, and what has been seen has the depth of the invariant
      have hbeyond : ∀ j ∈ i :: rest, k ≤ j := by
        intro j hj
        rcases List.mem_cons.1 hj with rfl | hj
        · exact hki
        · have := lt_of_mem_rest hcode hj
          omega
      rw [countWithin_append hk hbeyond, countWithin_append hk hbeyond, hdepth]
      omega
    · have hle : start ≤ i := Nat.le_of_lt (lt_of_mem_seen hcode hstart)
      rcases closingAmong_cons hdepth hle rest with ⟨hend, -⟩ | ⟨depth', hgo, hnext⟩
      · rw [hend, Body.closed.injEq] at hclosed
        omega
      · have hbound : ∀ j ∈ seen ++ [i], j < k := by
          intro j hj
          have := le_of_mem_concat hcode hj
          omega
        rw [List.append_cons] at hcode ⊢
        exact ih hcode (List.mem_append_left _ hstart) hnext (hgo ▸ hclosed) hbound

lemma hasDepth_zero (hcode : (seen ++ [start]).Pairwise (· < ·))
    (hopen : isAt text '{' start = true) :
    HasDepth text start 0 (seen ++ [start]) := by
  have hnone (c : Char) : countFrom text seen c start = 0 := by
    rw [countFrom, List.countP_eq_zero]
    intro j hj
    have := lt_of_mem_seen hcode hj
    simp only [Bool.and_eq_true, decide_eq_true_eq]
    omega
  have hclose := isAt_unique (b := '}') hopen (by decide)
  rw [HasDepth, countFrom_append_singleton (Nat.le_refl _),
    countFrom_append_singleton (Nat.le_refl _), hnone, hnone, hopen, hclose]
  rfl

end

/-! ## The body that is found -/

/-- Whether the search for an opening brace stops at an offset. -/
def isOpeningMark (text : Text) (i : ℕ) : Bool :=
  isAt text '{' i || isAt text ';' i

lemma openingAmong_append {text : Text} {seen : List ℕ} (h : ∀ i ∈ seen, ¬isOpeningMark text i)
    (rest : List ℕ) : openingAmong text (seen ++ rest) = openingAmong text rest := by
  induction seen with
  | nil => rfl
  | cons i seen ih =>
    have hi := h i List.mem_cons_self
    simp only [isOpeningMark, Bool.or_eq_true, not_or, Bool.not_eq_true] at hi
    rw [List.cons_append, openingAmong]
    simp only [hi, Bool.false_eq_true, if_false]
    exact ih fun j hj => h j (List.mem_cons_of_mem _ hj)

/-- A body is absent exactly when the count has no bounds for it; otherwise the search for its end
begins behind the first brace. -/
lemma openingAmong_cases (text : Text) {code : List ℕ} (hcode : code.Pairwise (· < ·)) :
    (openingAmong text code = .absent ∧ bodyBounds text code = (none, none))
      ∨ ∃ seen start rest, code = seen ++ start :: rest ∧ isAt text '{' start = true
        ∧ openingAmong text code = closingAmong text start 0 rest
        ∧ bodyBounds text code
          = (some start, (code.find? (endsBody text code start)).map (· + 1)) := by
  rcases hmark : code.find? (isOpeningMark text) with - | i
  · have hno : ∀ i ∈ code, ¬isOpeningMark text i := List.find?_eq_none.1 hmark
    have hopen : code.find? (isAt text '{') = none := by
      refine List.find?_eq_none.2 fun i hi => ?_
      have := hno i hi
      simp only [isOpeningMark, Bool.or_eq_true, not_or] at this
      exact this.1
    refine Or.inl ⟨?_, by rw [bodyBounds, hopen]⟩
    have := openingAmong_append hno []
    rwa [List.append_nil] at this
  · obtain ⟨hi, seen, rest, rfl, hseen⟩ := List.find?_eq_some_iff_append.1 hmark
    have hseen' : ∀ j ∈ seen, ¬isOpeningMark text j := by simpa using hseen
    have hseenOpen : ∀ j ∈ seen, ¬isAt text '{' j = true := by
      intro j hj hopen
      exact hseen' j hj (by simp [isOpeningMark, hopen])
    by_cases hend : isAt text ';' i = true
    · -- a semicolon comes first, whether or not a brace follows
      refine Or.inl ⟨by rw [openingAmong_append hseen', openingAmong, if_pos hend], ?_⟩
      rw [bodyBounds]
      cases hopen : (seen ++ i :: rest).find? (isAt text '{') with
      | none => rfl
      | some start =>
        have hstart := List.find?_some hopen
        have hmem : start ∈ rest := by
          rcases List.mem_append.1 (List.mem_of_find?_eq_some hopen) with h | h
          · exact absurd hstart (hseenOpen start h)
          · rcases List.mem_cons.1 h with rfl | h
            · rw [isAt_unique hend (by decide)] at hstart
              cases hstart
            · exact h
        have hany : (seen ++ i :: rest).any
            (fun j => isAt text ';' j && decide (j < start)) = true := by
          refine List.any_eq_true.2 ⟨i, by simp, ?_⟩
          simp [hend, lt_of_mem_rest hcode hmem]
        dsimp only
        rw [if_pos hany]
    · -- the first mark is a brace, and any semicolon comes after it
      have hopen : isAt text '{' i = true := by
        simpa [isOpeningMark, hend] using hi
      have hfirst : (seen ++ i :: rest).find? (isAt text '{') = some i := by
        refine List.find?_eq_some_iff_append.2 ⟨hopen, seen, rest, rfl, ?_⟩
        simpa using hseenOpen
      have hany : ¬(seen ++ i :: rest).any (fun j => isAt text ';' j && decide (j < i)) = true := by
        rw [List.any_eq_true]
        rintro ⟨j, hj, hmark⟩
        simp only [Bool.and_eq_true, decide_eq_true_eq] at hmark
        rcases List.mem_append.1 hj with hj | hj
        · exact hseen' j hj (by simp [isOpeningMark, hmark.1])
        · rcases List.mem_cons.1 hj with rfl | hj
          · exact hend hmark.1
          · have := lt_of_mem_rest hcode hj
            omega
      refine Or.inr ⟨seen, i, rest, rfl, hopen, ?_, ?_⟩
      · rw [openingAmong_append hseen', openingAmong, if_neg hend, if_pos hopen]
      · rw [bodyBounds, hfirst]
        dsimp only
        rw [if_neg hany]

/-- The end that the count gives lies behind the start. -/
lemma find?_endsBody (text : Text) {start : ℕ} {seen rest : List ℕ}
    (hcode : (seen ++ start :: rest).Pairwise (· < ·)) :
    (seen ++ [start] ++ rest).find? (endsBody text (seen ++ [start] ++ rest) start)
      = rest.find? (endsBody text (seen ++ [start] ++ rest) start) := by
  have hnone : (seen ++ [start]).find? (endsBody text (seen ++ [start] ++ rest) start) = none := by
    refine List.find?_eq_none.2 fun i hi hends => ?_
    have hlt : start < i := by
      simp only [endsBody, Bool.and_eq_true, decide_eq_true_eq] at hends
      exact hends.1.2
    have := le_of_mem_concat hcode hi
    omega
  rw [List.find?_append, hnone, Option.none_or]

/-- The body that the search finds is the one told by counting braces among the characters of
code, and before its end more of its braces have opened than closed. -/
theorem find_eq_bodyBounds (text : Text) (offset : ℤ) :
    let code := codeOffsets text (max 0 offset).toNat
    ((Body.find text offset).start?, (Body.find text offset).stop?) = bodyBounds text code
      ∧ ∀ start stop, Body.find text offset = .closed start stop →
        ∀ k, start < k → k < stop →
          countWithin text code '}' start k < countWithin text code '{' start k := by
  have hoffset : (max 0 offset).toNat = offset.toNat := by omega
  have hcode := codeOffsets_pairwise text offset.toNat
  rw [hoffset, find_eq_openingAmong]
  dsimp only
  generalize codeOffsets text offset.toNat = code at hcode
  rcases openingAmong_cases text hcode with
    ⟨habsent, hbounds⟩ | ⟨seen, start, rest, rfl, hopen, hsearch, hbounds⟩
  · rw [habsent, hbounds]
    exact ⟨rfl, nofun⟩
  · have hfind := find?_endsBody text hcode
    have hle : ∀ j ∈ seen ++ [start], j ≤ start := fun j hj => le_of_mem_concat hcode hj
    rw [hsearch, hbounds]
    -- the brace that opens the body counts as seen: no inner brace is open behind it
    rw [List.append_cons] at hcode ⊢
    have hstart : start ∈ seen ++ [start] := List.mem_append_right _ List.mem_cons_self
    have hseen := (List.pairwise_append.1 hcode).1
    have hdepth := hasDepth_zero hseen hopen
    constructor
    · rw [closingAmong_eq_find? hcode hstart hdepth, hfind]
      cases rest.find? (endsBody text (seen ++ [start] ++ rest) start) <;> rfl
    · intro start' stop hclosed k hk hstop
      have hsame : start' = start := by
        rw [closingAmong_eq_find? hcode hstart hdepth] at hclosed
        rcases hends : rest.find? (endsBody text (seen ++ [start] ++ rest) start) with - | i
        · rw [hends] at hclosed
          cases hclosed
        · rw [hends] at hclosed
          cases hclosed
          rfl
      subst hsame
      refine countWithin_lt_of_closingAmong hcode hstart hdepth hclosed (fun j hj => ?_) hstop
      have := hle j hj
      omega

/-- Braces in a string and in a comment do not count, and the body has an inner block. -/
theorem find_eq_bodyBounds_nested :
    let text := "\x7d f(\x27\x7b\x27) /*/\x7b*/ \x7ba\x7b\x7db\x7d".toList
    let code := codeOffsets text 0
    Body.find text (-3) = .closed 16 22
      ∧ countWithin text code '}' 16 20 < countWithin text code '{' 16 20 :=
  have h : Body.find "\x7d f(\x27\x7b\x27) /*/\x7b*/ \x7ba\x7b\x7db\x7d".toList (-3)
      = .closed 16 22 := by decide
  ⟨h, (find_eq_bodyBounds _ (-3)).2 16 22 h 20 (by decide) (by decide)⟩

end Source
end YiiNavigator
