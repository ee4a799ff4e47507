import YiiNavigator.Proofs.Source.Body

/-!
# Bodies within bodies

Two searches for bodies that start at different offsets read the same characters of code from the
second offset on, if the first of them comes to it in code. From there on the search that has more
braces open ends later, so that the second body is read as a whole before the first one ends
(`precedes_or_encloses`). A first body may also end before the second one starts.
-/

namespace YiiNavigator

namespace Body

/-- One body ends before another one starts, or where it starts. -/
def Precedes (first second : Body) : Prop :=
  ∃ stop ∈ first.stop?, ∃ start ∈ second.start?, stop ≤ start

/-- One body starts no later than another one, and ends, if it does, no earlier; the other one ends
then, too. -/
def Encloses (outer inner : Body) : Prop :=
  (∃ start ∈ outer.start?, ∃ start' ∈ inner.start?, start ≤ start')
    ∧ ∀ stop ∈ outer.stop?, ∃ stop' ∈ inner.stop?, stop' ≤ stop

end Body

namespace Source

variable {text : Text} {start start' stop depth depth' i j n : ℕ} {code seen rest : List ℕ}

lemma mem_codeOffsets (h : j ∈ codeOffsets text i) : i ≤ j ∧ j < text.length := by
  rw [← codeFromAt_code] at h
  have hmem := (codeFrom_sublist _ _ _).mem h
  rw [List.mem_range'_1, List.length_drop] at hmem
  omega

lemma lt_length_of_isAt {c : Char} (h : isAt text c i = true) : i < text.length := by
  rw [isAt, beq_iff_eq] at h
  exact (List.getElem?_eq_some_iff.1 h).1

/-! ## One step of the search for an end -/

/-- The number of inner braces that are open behind an offset of code, unless the body ends
there. -/
def depthAfter (text : Text) (depth i : ℕ) : Option ℕ :=
  if isAt text '{' i then some (depth + 1)
  else if isAt text '}' i then
    match depth with
    | 0 => none
    | depth + 1 => some depth
  else some depth

lemma closingAmong_cons_eq (text : Text) (start depth i : ℕ) (rest : List ℕ) :
    closingAmong text start depth (i :: rest)
      = (depthAfter text depth i).elim (.closed start (i + 1)) fun depth' =>
        closingAmong text start depth' rest := by
  rw [closingAmong.eq_def, depthAfter.eq_def]
  dsimp only
  split
  · rfl
  · split
    · cases depth <;> rfl
    · rfl

/-- A body ends at a brace that closes it, with no inner brace open. -/
lemma isAt_of_depthAfter_eq_none (h : depthAfter text depth i = none) :
    isAt text '}' i = true := by
  unfold depthAfter at h
  split at h
  · cases h
  · split at h
    · assumption
    · cases h

/-- More open braces before an offset are more open braces behind it. -/
lemma exists_depthAfter (hle : depth ≤ depth') {d : ℕ} (h : depthAfter text depth i = some d) :
    ∃ d', depthAfter text depth' i = some d' ∧ d ≤ d' := by
  unfold depthAfter at h ⊢
  split at h
  · rename_i hopen
    cases h
    rw [if_pos hopen]
    exact ⟨_, rfl, Nat.succ_le_succ hle⟩
  · rename_i hopen
    rw [if_neg hopen]
    split at h
    · rename_i hclose
      rw [if_pos hclose]
      -- the smaller number is not zero, so that neither of them is
      rcases depth with - | depth
      · cases h
      · obtain ⟨depth', rfl⟩ := Nat.exists_eq_add_of_le' (Nat.le_trans (Nat.le_add_left 1 _) hle)
        cases h
        exact ⟨_, rfl, Nat.le_of_succ_le_succ hle⟩
    · rename_i hclose
      cases h
      rw [if_neg hclose]
      exact ⟨_, rfl, hle⟩

/-! ## Runs of the search for an end -/

/-- A body either has no end or it ends behind a closing brace in code. -/
lemma closingAmong_cases (text : Text) (start depth : ℕ) (code : List ℕ) :
    closingAmong text start depth code = .unclosed start
      ∨ ∃ i ∈ code, isAt text '}' i = true
        ∧ closingAmong text start depth code = .closed start (i + 1) := by
  induction code generalizing depth with
  | nil => exact .inl rfl
  | cons i rest ih =>
    rw [closingAmong_cons_eq]
    rcases hdepth : depthAfter text depth i with - | depth'
    · exact .inr ⟨i, List.mem_cons_self, isAt_of_depthAfter_eq_none hdepth, rfl⟩
    · rcases ih depth' with hopen | ⟨j, hj, hbrace, hclosed⟩
      · exact .inl hopen
      · exact .inr ⟨j, List.mem_cons_of_mem _ hj, hbrace, hclosed⟩

lemma start?_closingAmong (text : Text) (start depth : ℕ) (code : List ℕ) :
    (closingAmong text start depth code).start? = some start := by
  rcases closingAmong_cases text start depth code with h | ⟨i, -, -, h⟩
  · rw [h]
    rfl
  · rw [h]
    rfl

/-- Where a body ends, one with no more inner braces open has ended. -/
lemma exists_closingAmong_le (start : ℕ) (hcode : code.Pairwise (· < ·)) (hle : depth ≤ depth')
    (h : closingAmong text start' depth' code = .closed start' stop) :
    ∃ stop' ≤ stop, closingAmong text start depth code = .closed start stop' := by
  induction code generalizing depth depth' with
  | nil => cases h
  | cons i rest ih =>
    obtain ⟨hfirst, hrest⟩ := List.pairwise_cons.1 hcode
    rw [closingAmong_cons_eq text start]
    rcases hdepth : depthAfter text depth i with - | d
    · -- the other body ends at this offset or at one behind it
      refine ⟨i + 1, ?_, rfl⟩
      rcases closingAmong_cases text start' depth' (i :: rest) with hopen | ⟨j, hj, -, hclosed⟩
      · rw [hopen] at h
        cases h
      · rw [hclosed] at h
        cases h
        rcases List.mem_cons.1 hj with rfl | hj
        · exact Nat.le_refl _
        · exact Nat.succ_le_succ (Nat.le_of_lt (hfirst j hj))
    · obtain ⟨d', hdepth', hd⟩ := exists_depthAfter hle hdepth
      rw [closingAmong_cons_eq, hdepth'] at h
      exact ih hrest hd h

/-- The search either ends among the offsets that come first, or goes on behind them. -/
lemma closingAmong_append (text : Text) (start depth : ℕ) (seen rest : List ℕ) :
    (∃ i ∈ seen, closingAmong text start depth (seen ++ rest) = .closed start (i + 1))
      ∨ ∃ depth', closingAmong text start depth (seen ++ rest)
        = closingAmong text start depth' rest := by
  induction seen generalizing depth with
  | nil => exact .inr ⟨depth, rfl⟩
  | cons i seen ih =>
    rw [List.cons_append, closingAmong_cons_eq]
    rcases depthAfter text depth i with - | depth'
    · exact .inl ⟨i, List.mem_cons_self, rfl⟩
    · rcases ih depth' with ⟨j, hj, hclosed⟩ | hgo
      · exact .inl ⟨j, List.mem_cons_of_mem _ hj, hclosed⟩
      · exact .inr hgo

/-! ## Runs of the search for a body -/

/-- A body is absent, or it starts at an opening brace in code. -/
lemma openingAmong_eq_absent_or (text : Text) (code : List ℕ) :
    openingAmong text code = .absent
      ∨ ∃ start ∈ code, isAt text '{' start = true
        ∧ (openingAmong text code).start? = some start := by
  induction code with
  | nil => exact .inl rfl
  | cons i rest ih =>
    rw [openingAmong]
    split
    · exact .inl rfl
    · split
      · rename_i hopen
        exact .inr ⟨i, List.mem_cons_self, hopen, start?_closingAmong _ _ _ _⟩
      · rcases ih with habsent | ⟨start, hmem, hopen, hstart⟩
        · exact .inl habsent
        · exact .inr ⟨start, List.mem_cons_of_mem _ hmem, hopen, hstart⟩

/-- A search that has passed over some offsets has found no body, is still looking for one, has
found a whole one, or is looking for the end of one. -/
lemma openingAmong_append_cases (text : Text) (seen rest : List ℕ) :
    openingAmong text (seen ++ rest) = .absent
      ∨ openingAmong text (seen ++ rest) = openingAmong text rest
      ∨ (∃ start, ∃ i ∈ seen, openingAmong text (seen ++ rest) = .closed start (i + 1))
      ∨ ∃ start ∈ seen, ∃ depth,
        openingAmong text (seen ++ rest) = closingAmong text start depth rest := by
  induction seen with
  | nil => exact .inr (.inl rfl)
  | cons i seen ih =>
    rw [List.cons_append, openingAmong]
    split
    · exact .inl rfl
    · split
      · -- the body starts here; it may end before the rest
        rcases closingAmong_append text i 0 seen rest with ⟨j, hj, hclosed⟩ | ⟨depth, hgo⟩
        · exact .inr (.inr (.inl ⟨i, j, List.mem_cons_of_mem _ hj, hclosed⟩))
        · exact .inr (.inr (.inr ⟨i, List.mem_cons_self, depth, hgo⟩))
      · rcases ih with habsent | hlooking | ⟨start, j, hj, hclosed⟩ | ⟨start, hmem, hgo⟩
        · exact .inl habsent
        · exact .inr (.inl hlooking)
        · exact .inr (.inr (.inl ⟨start, j, List.mem_cons_of_mem _ hj, hclosed⟩))
        · exact .inr (.inr (.inr ⟨start, List.mem_cons_of_mem _ hmem, hgo⟩))

/-! ## Two searches side by side -/

/-- A body whose end is looked for, beside another one that is looked for among the same offsets:
the first one ends before the second one starts, or it encloses it. -/
lemma closingAmong_openingAmong (hcode : code.Pairwise (· < ·)) (hstart : ∀ i ∈ code, start ≤ i)
    (hbody : openingAmong text code ≠ .absent) :
    (closingAmong text start depth code).Precedes (openingAmong text code)
      ∨ (closingAmong text start depth code).Encloses (openingAmong text code) := by
  induction code generalizing depth with
  | nil => exact absurd rfl hbody
  | cons i rest ih =>
    obtain ⟨hfirst, hrest⟩ := List.pairwise_cons.1 hcode
    have hstart' : ∀ j ∈ rest, start ≤ j := fun j hj => hstart j (List.mem_cons_of_mem _ hj)
    rw [openingAmong] at hbody ⊢
    split at hbody
    · exact absurd rfl hbody
    · rename_i hend
      rw [if_neg hend]
      split at hbody
      · -- the second body starts inside of the first one, which has one more brace open
        rename_i hopen
        rw [if_pos hopen]
        have hdepth : closingAmong text start depth (i :: rest)
            = closingAmong text start (depth + 1) rest := by
          rw [closingAmong_cons_eq, depthAfter.eq_def, if_pos hopen]
          rfl
        rw [hdepth]
        refine .inr ⟨⟨start, start?_closingAmong _ _ _ _, i, start?_closingAmong _ _ _ _,
          hstart i List.mem_cons_self⟩, fun stop hstop => ?_⟩
        rcases closingAmong_cases text start (depth + 1) rest with hunclosed | ⟨j, -, -, hclosed⟩
        · rw [hunclosed] at hstop
          cases hstop
        · obtain ⟨stop', hle, hinner⟩ :=
            exists_closingAmong_le i hrest (Nat.zero_le (depth + 1)) hclosed
          rw [hclosed] at hstop
          cases hstop
          exact ⟨stop', by rw [hinner]; rfl, hle⟩
      · rename_i hopen
        rw [if_neg hopen, closingAmong_cons_eq]
        rcases depthAfter text depth i with - | depth'
        · -- the first body ends here, and the second one starts later
          rcases openingAmong_eq_absent_or text rest with habsent | ⟨start', hmem, -, hsecond⟩
          · exact absurd habsent hbody
          · exact .inl ⟨i + 1, rfl, start', hsecond, hfirst start' hmem⟩
        · exact ih hrest hstart' hbody

/-! ## The offsets that a search comes to -/

/-- The state of the lexer that enters a text at an offset, after some more characters. -/
def stateAfter (text : Text) (start : ℕ) : ℕ → Lexer
  | 0 => .entering (text.take start)
  | n + 1 => match text[start + n]? with
    | none => stateAfter text start n
    | some c => (stateAfter text start n).next c text[start + n + 1]?

/-- Whether reading that enters a text at an offset, in code, is in code when it comes to another
one. -/
def ReachesInCode (text : Text) (start i : ℕ) : Prop :=
  start ≤ i ∧ (stateAfter text start (i - start)).region = .code

instance (text : Text) (start i : ℕ) : Decidable (ReachesInCode text start i) :=
  inferInstanceAs (Decidable (_ ∧ _))

/-- The lexer has the code before it behind it, and reads on in the region where it is. -/
lemma exists_codeFromAt_append (h : start + n ≤ text.length) :
    ∃ region seen, stateAfter text start n = stateAt text region (start + n)
      ∧ codeOffsets text start = seen ++ codeFromAt text region (start + n)
      ∧ ∀ j ∈ seen, j < start + n := by
  induction n with
  | zero =>
    refine ⟨.code, [], entering_take text start, (codeFromAt_code text start).symm, ?_⟩
    exact fun j hj => absurd hj List.not_mem_nil
  | succ n ih =>
    have hlt : start + n < text.length := by omega
    obtain ⟨region, seen, hstate, hcode, hseen⟩ := ih (by omega)
    have hnext : stateAfter text start (n + 1)
        = (stateAfter text start n).next text[start + n] text[start + n + 1]? := by
      rw [stateAfter, List.getElem?_eq_getElem hlt]
    rw [hnext, hstate, stateAt_next hlt]
    rw [codeFromAt_of_lt hlt, ← List.append_assoc] at hcode
    refine ⟨_, _, rfl, hcode, fun j hj => ?_⟩
    rcases List.mem_append.1 hj with hj | hj
    · have := hseen j hj
      omega
    · split at hj
      · rw [List.mem_singleton.1 hj]
        omega
      · cases hj

/-- The code from an offset that is reached in code on is the end of the code that is read. -/
lemma ReachesInCode.exists_append (h : ReachesInCode text start i) (hi : i ≤ text.length) :
    ∃ seen, codeOffsets text start = seen ++ codeOffsets text i ∧ ∀ j ∈ seen, j < i := by
  obtain ⟨hle, hregion⟩ := h
  have hsum : start + (i - start) = i := by omega
  have hlength : start + (i - start) ≤ text.length := by omega
  obtain ⟨region, seen, hstate, hcode, hseen⟩ := exists_codeFromAt_append hlength
  rw [hstate] at hregion
  rw [show region = .code from hregion, hsum, codeFromAt_code] at hcode
  rw [hsum] at hseen
  exact ⟨seen, hcode, hseen⟩

/-! ## Bodies that are found -/

/-- What the search for a body gives: nothing, or a body that starts at an opening brace and, if it
ends, ends behind a closing one. -/
lemma find_cases (text : Text) (offset : ℕ) :
    Body.find text offset = .absent
      ∨ ∃ start, offset ≤ start ∧ isAt text '{' start = true
        ∧ (Body.find text offset = .unclosed start
          ∨ ∃ i, start < i ∧ isAt text '}' i = true
            ∧ Body.find text offset = .closed start (i + 1)) := by
  have hcode := codeOffsets_pairwise text offset
  rw [find_eq_openingAmong, Int.toNat_natCast]
  rcases openingAmong_cases text hcode with
    ⟨habsent, -⟩ | ⟨seen, start, rest, hsplit, hopen, hsearch, -⟩
  · exact .inl habsent
  · have hmem : start ∈ codeOffsets text offset := by
      rw [hsplit]
      simp
    rw [hsplit] at hcode
    refine .inr ⟨start, (mem_codeOffsets hmem).1, hopen, ?_⟩
    rw [hsearch]
    rcases closingAmong_cases text start 0 rest with hunclosed | ⟨i, hi, hclose, hclosed⟩
    · exact .inl hunclosed
    · exact .inr ⟨i, lt_of_mem_rest hcode hi, hclose, hclosed⟩

/-- A body that is looked for from an offset on starts there or later. -/
lemma le_start_of_find {offset : ℕ} (h : start ∈ (Body.find text offset).start?) :
    offset ≤ start := by
  rcases find_cases text offset with habsent | ⟨start', hle, -, hfind | ⟨i, -, -, hfind⟩⟩
  · rw [habsent] at h
    cases h
  · rw [hfind] at h
    cases h
    exact hle
  · rw [hfind] at h
    cases h
    exact hle

/-- A body ends within the text. -/
lemma stop_le_of_find {offset : ℕ} (h : stop ∈ (Body.find text offset).stop?) :
    stop ≤ text.length := by
  rcases find_cases text offset with habsent | ⟨start', -, -, hfind | ⟨i, -, hclose, hfind⟩⟩
  · rw [habsent] at h
    cases h
  · rw [hfind] at h
    cases h
  · rw [hfind] at h
    cases h
    exact lt_length_of_isAt hclose

/-- When the search for a first body comes in code to the offset where the search for a second one
begins, the first body ends before the second one, or encloses it. -/
lemma precedes_or_encloses {first second : ℕ} (hlength : second ≤ text.length)
    (hreach : ReachesInCode text first second) (hfirst : Body.find text first ≠ .absent)
    (hsecond : Body.find text second ≠ .absent) :
    (Body.find text first).Precedes (Body.find text second)
      ∨ (Body.find text first).Encloses (Body.find text second) := by
  obtain ⟨seen, hcode, hseen⟩ := hreach.exists_append hlength
  have hrest := codeOffsets_pairwise text second
  have hle : ∀ i ∈ codeOffsets text second, second ≤ i := fun i hi => (mem_codeOffsets hi).1
  rw [find_eq_openingAmong, Int.toNat_natCast] at hfirst hsecond ⊢
  rw [find_eq_openingAmong, Int.toNat_natCast]
  rw [hcode] at hfirst ⊢
  rcases openingAmong_eq_absent_or text (codeOffsets text second) with
    habsent | ⟨start', hmem, -, hstart'⟩
  · exact absurd habsent hsecond
  · rcases openingAmong_append_cases text seen (codeOffsets text second) with
      habsent | hsame | ⟨start, i, hi, hclosed⟩ | ⟨start, hstart, depth, hgo⟩
    · exact absurd habsent hfirst
    · -- neither search has found a body yet, so that both find the same one
      rw [hsame]
      exact .inr ⟨⟨start', hstart', start', hstart', Nat.le_refl _⟩,
        fun stop hstop => ⟨stop, hstop, Nat.le_refl _⟩⟩
    · rw [hclosed]
      have := hseen i hi
      have := hle start' hmem
      exact .inl ⟨i + 1, rfl, start', hstart', by omega⟩
    · rw [hgo]
      refine closingAmong_openingAmong hrest (fun i hi => ?_) hsecond
      have := hseen start hstart
      have := hle i hi
      omega

end Source
end YiiNavigator
