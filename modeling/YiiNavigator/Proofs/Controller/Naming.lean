import YiiNavigator.Controller.Naming
import YiiNavigator.Proofs.Path.Plain
import YiiNavigator.Proofs.Text.Case

/-!
# Stems of controllers

The stem of a controller's file name and the id that its views are kept under differ in the case of
the first letter. The class name of the id has a capital there, so that one of the two spellings of
the class name is the stem.
-/

namespace YiiNavigator
namespace Naming

/-- Whether a text is the stem of a controller's file name: ASCII letters and digits, the first of
them a letter. -/
def isStem : Text → Bool
  | c :: rest => c.isAlpha && rest.all Char.isAlphanum
  | [] => false

variable {c : Char} {stem rest : Text}

/-! ## Stems -/

lemma exists_of_isStem (h : isStem stem = true) :
    ∃ c rest, stem = c :: rest ∧ c.isAlpha = true ∧ rest.all Char.isAlphanum = true := by
  unfold isStem at h
  split at h
  · exact ⟨_, _, rfl, Bool.and_eq_true_iff.1 h⟩
  · cases h

lemma isAlphanum_of_mem (h : isStem stem = true) (hc : c ∈ stem) : c.isAlphanum = true := by
  obtain ⟨first, rest, rfl, hfirst, hrest⟩ := exists_of_isStem h
  rcases List.mem_cons.1 hc with rfl | hc
  · rw [Char.isAlphanum, hfirst, Bool.true_or]
  · exact List.all_eq_true.1 hrest c hc

/-- A stem holds no character that is neither a letter nor a digit. -/
lemma notMem_of_isStem (h : isStem stem = true) (hc : c.isAlphanum = false) : c ∉ stem := by
  intro hmem
  rw [isAlphanum_of_mem h hmem] at hc
  cases hc

lemma isStem_lowerFirst (h : isStem stem = true) : isStem (Text.lowerFirst stem) = true := by
  obtain ⟨c, rest, rfl, hc, hrest⟩ := exists_of_isStem h
  rw [Text.lowerFirst_cons hc, isStem, Char.isAlpha_toLower_eq_isAlpha, hc, hrest]
  rfl

lemma isPlain_of_isStem (h : isStem stem = true) : Path.IsPlain stem := by
  have hdot : '.' ∉ stem := notMem_of_isStem h (by decide)
  refine ⟨?_, notMem_of_isStem h (by decide), notMem_of_isStem h (by decide), ?_, ?_⟩
  · rintro rfl
    cases h
  · rintro rfl
    exact hdot List.mem_cons_self
  · rintro rfl
    exact hdot List.mem_cons_self

/-- An id without separators is one word. -/
lemma words_eq_singleton {id : Text} (hne : id ≠ []) (h : ∀ c ∈ id, isSeparator c = false) :
    words id = [id] := by
  unfold words
  rw [List.splitOnP_eq_singleton h]
  exact List.filter_cons_of_pos (by simpa using hne)

lemma isSeparator_of_isAlphanum (h : c.isAlphanum = true) : isSeparator c = false := by
  rw [← Bool.not_eq_true]
  intro heq
  simp only [isSeparator, Bool.or_eq_true, beq_iff_eq] at heq
  rcases heq with rfl | rfl
  · exact absurd h (by decide)
  · exact absurd h (by decide)

/-- A name that begins with a letter and has no separators is the class name of its id, but for the
case of that letter. -/
lemma className_lowerFirst_cons (hc : c.isAlpha = true)
    (hrest : ∀ d ∈ rest, isSeparator d = false) :
    className (Text.lowerFirst (c :: rest)) = Text.upperFirst (c :: rest) := by
  have hlower : c.toLower.isAlpha = true := by
    rw [Char.isAlpha_toLower_eq_isAlpha, hc]
  have hfirst : isSeparator c.toLower = false :=
    isSeparator_of_isAlphanum (by rw [Char.isAlphanum, hlower, Bool.true_or])
  unfold className
  rw [Text.lowerFirst_cons hc,
    words_eq_singleton (List.cons_ne_nil _ _) (List.forall_mem_cons.2 ⟨hfirst, hrest⟩),
    List.flatMap_singleton, Text.upperFirst_cons hc, Text.upperFirst_cons hlower,
    Char.toUpper_toLower_eq_toUpper]

/-- The class name of the id of a stem has a capital where the stem has a letter of either case. -/
lemma className_lowerFirst (h : isStem stem = true) :
    className (Text.lowerFirst stem) = Text.upperFirst stem := by
  obtain ⟨c, rest, rfl, hc, hrest⟩ := exists_of_isStem h
  exact className_lowerFirst_cons hc fun d hd =>
    isSeparator_of_isAlphanum (List.all_eq_true.1 hrest d hd)

lemma lowerClassName_lowerFirst (h : isStem stem = true) :
    lowerClassName (Text.lowerFirst stem) = Text.lowerFirst stem := by
  unfold lowerClassName
  rw [className_lowerFirst h]
  obtain ⟨c, rest, rfl, hc, -⟩ := exists_of_isStem h
  rw [Text.upperFirst_cons hc, Text.lowerFirst_cons hc, Text.lowerFirst_cons,
    Char.toLower_toUpper_eq_toLower]
  rw [Char.isAlpha_toUpper_eq_isAlpha, hc]

lemma lowerFirst_of_isLower (h : isStem stem = true)
    (hsmall : stem.head?.any Char.isLower = true) : Text.lowerFirst stem = stem := by
  obtain ⟨c, rest, rfl, hc, -⟩ := exists_of_isStem h
  have hlower : c.isLower = true := hsmall
  have hupper : ¬c.isUpper = true := Char.not_isUpper_of_isLower hlower
  rw [Text.lowerFirst_cons hc, Char.toLower_eq_of_not_isUpper hupper]

lemma upperFirst_of_not_isLower (h : isStem stem = true)
    (hcapital : ¬stem.head?.any Char.isLower = true) : Text.upperFirst stem = stem := by
  obtain ⟨c, rest, rfl, hc, -⟩ := exists_of_isStem h
  have hlower : ¬c.isLower = true := hcapital
  rw [Text.upperFirst_cons hc, Char.toUpper_eq_of_not_isLower hlower]

end Naming
end YiiNavigator
