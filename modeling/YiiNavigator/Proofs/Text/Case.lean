import Mathlib
import YiiNavigator.Text.Case

/-!
# Letters in the other case

ASCII letters change case without the tables, one by one in a text that has no other letters. The
tables of the lower case lead to no character in front of the small letters. So the first letter in
lower case brings no sign, such as a slash, into a text that does not have it.
-/

namespace YiiNavigator
namespace Text

variable {c d : Char} {text rest : Text}

/-! ## ASCII letters -/

lemma toNat_lt_of_isAlpha (h : c.isAlpha = true) : c.toNat < 0x80 := by
  simp only [Char.isAlpha, Char.isUpper, Char.isLower, Bool.or_eq_true, Bool.and_eq_true,
    decide_eq_true_eq, ge_iff_le, UInt32.le_iff_toNat_le] at h
  have htoNat : c.toNat = c.val.toNat := rfl
  have hupper : ('Z'.val).toNat = 90 := rfl
  have hlower : ('z'.val).toNat = 122 := rfl
  omega

lemma lowerFirst_cons (h : c.isAlpha = true) : Text.lowerFirst (c :: rest) = c.toLower :: rest := by
  show Text.lowerChar c ++ rest = _
  unfold Text.lowerChar
  rw [if_pos (toNat_lt_of_isAlpha h)]
  rfl

lemma upperFirst_cons (h : c.isAlpha = true) : Text.upperFirst (c :: rest) = c.toUpper :: rest := by
  show Text.upperChar c ++ rest = _
  unfold Text.upperChar
  rw [if_pos (toNat_lt_of_isAlpha h)]
  rfl

lemma lowerFirst_ne_nil (h : text ≠ []) : lowerFirst text ≠ [] := by
  rcases text with - | ⟨c, rest⟩
  · exact h
  · refine List.append_ne_nil_of_left_ne_nil ?_ _
    unfold lowerChar
    split
    · exact List.cons_ne_nil _ _
    · split
      · exact List.cons_ne_nil _ _
      · exact List.cons_ne_nil _ _

/-! ## ASCII texts -/

/-- Whether a text consists of ASCII characters. -/
def IsAscii (text : Text) : Prop :=
  ∀ c ∈ text, c.toNat < 0x80

instance (text : Text) : Decidable (IsAscii text) :=
  List.decidableBAll (fun c : Char => c.toNat < 0x80) text

/-- No rule of the lower case looks beyond an ASCII character. -/
lemma lowerFrom_of_isAscii (h : IsAscii text) (inWord : Bool) :
    lowerFrom inWord text = text.map Char.toLower := by
  induction text generalizing inWord with
  | nil => rfl
  | cons c rest ih =>
    have hc : c.toNat < 0x80 := h c List.mem_cons_self
    have hsigma : ¬(c.toNat = 0x3A3 && inWord && !continuesWord rest) = true := by
      simp only [Bool.and_eq_true, decide_eq_true_eq]
      omega
    have hform : lowerChar c = [c.toLower] := if_pos hc
    rw [lowerFrom, if_neg hsigma, hform, ih fun d hd => h d (List.mem_cons_of_mem c hd)]
    rfl

lemma lower_of_isAscii (h : IsAscii text) : lower text = text.map Char.toLower :=
  lowerFrom_of_isAscii h false

/-! ## Signs -/

/-- A character before the small letters is the lower case of itself only. -/
lemma eq_of_toLower_lt (h : c.toLower.toNat < 0x61) : c.toLower = c := by
  by_cases hupper : c.isUpper = true
  · have hlower : c.toLower.isLower = true := by
      rw [Char.isLower_toLower_eq_isAlpha, Char.isAlpha, hupper, Bool.true_or]
    simp only [Char.isLower, Bool.and_eq_true, decide_eq_true_eq, ge_iff_le,
      UInt32.le_iff_toNat_le] at hlower
    have htoNat : c.toLower.toNat = c.toLower.val.toNat := rfl
    have ha : ('a'.val).toNat = 97 := rfl
    omega
  · exact Char.toLower_eq_of_not_isUpper hupper

/-- The tables of the lower case lead to characters from the small letters on. -/
lemma le_first_add_shift : ∀ run ∈ lowerRuns, 0x61 ≤ run.first + run.shift := by
  decide +kernel

lemma le_of_image? {run : CaseRun} {code image : ℕ} (hrun : run ∈ lowerRuns)
    (h : run.image? code = some image) : 0x61 ≤ image := by
  have hfirst := le_first_add_shift run hrun
  unfold CaseRun.image? at h
  split at h
  · cases h
    omega
  · cases h

/-- A number that is no code point gives the character zero. -/
lemma toNat_ofNat_eq_or (code : ℕ) :
    (Char.ofNat code).toNat = code ∨ (Char.ofNat code).toNat = 0 := by
  unfold Char.ofNat
  split
  · exact .inl rfl
  · exact .inr rfl

/-- A character before the small letters is in the lower case of itself only. -/
lemma eq_of_mem_lowerChar (h : d ∈ lowerChar c) (hd : d.toNat < 0x61) (hne : d.toNat ≠ 0) :
    d = c := by
  unfold lowerChar at h
  split at h
  · rw [List.mem_singleton] at h
    subst h
    exact eq_of_toLower_lt hd
  · split at h
    · simp only [List.mem_cons, List.not_mem_nil, or_false] at h
      rcases h with rfl | rfl
      · exact absurd hd (by decide)
      · exact absurd hd (by decide)
    · rw [List.mem_singleton] at h
      unfold mapRuns at h
      split at h
      · rename_i code hcode
        obtain ⟨run, hrun, himage⟩ := List.exists_of_findSome?_eq_some hcode
        have hle := le_of_image? hrun himage
        have htoNat : d.toNat = code ∨ d.toNat = 0 := h ▸ toNat_ofNat_eq_or code
        omega
      · exact h

/-- The first letter in lower case brings no character from before the small letters. -/
lemma notMem_lowerFirst (hd : d.toNat < 0x61) (hne : d.toNat ≠ 0) (h : d ∉ text) :
    d ∉ lowerFirst text := by
  rcases text with - | ⟨c, rest⟩
  · exact h
  · show d ∉ lowerChar c ++ rest
    rw [List.mem_append, not_or]
    refine ⟨fun hc => ?_, fun hrest => h (List.mem_cons_of_mem c hrest)⟩
    rw [eq_of_mem_lowerChar hc hd hne] at h
    exact h List.mem_cons_self

end Text
end YiiNavigator
