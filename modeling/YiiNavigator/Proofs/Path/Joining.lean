import YiiNavigator.Proofs.Path.Clean

/-!
# What joined texts denote

Joining spelled paths is appending the paths that they denote (`read_joinText`): slashes that are
repeated or missing at the seam make no difference, and a text that begins with a slash starts anew.
-/

namespace YiiNavigator
namespace Path

variable {q : Path} {a b : Text} {c : Char}

/-! ## Appending -/

lemma append_of_relative (p : Path) (h : q.anchor = .relative) :
    p.append q = p.under q.segments := by
  unfold append
  rw [h]
  rfl

lemma empty_append (p : Path) : append ⟨.relative, []⟩ p = p := by
  by_cases h : p.anchor = .relative
  · rw [append_of_relative _ h, ← h]
    rfl
  · exact append_of_anchored _ h

/-! ## The seam of two texts -/

/-- The anchor of a text is in its first three characters; a slash more would change it. -/
lemma anchor_read_append_of_no_slash (ha : a ≠ []) (hb : b.head? ≠ some '/') :
    Anchor.read (a ++ b) = Anchor.read a := by
  rcases b with - | ⟨d, b⟩
  · rw [List.append_nil]
  · have hd : d ≠ '/' := fun heq => hb (by rw [heq]; rfl)
    rcases a with - | ⟨c₁, - | ⟨c₂, - | ⟨c₃, a⟩⟩⟩
    · exact absurd rfl ha
    · by_cases h₁ : c₁ = '/' <;> simp [Anchor.read, h₁, hd]
    · by_cases h₁ : c₁ = '/' <;> by_cases h₂ : c₂ = '/' <;> simp [Anchor.read, h₁, h₂, hd]
    · by_cases h₁ : c₁ = '/' <;> by_cases h₂ : c₂ = '/' <;> by_cases h₃ : c₃ = '/' <;>
        simp [Anchor.read, h₁, h₂, h₃]

lemma anchor_read_append_slash (ha : a ≠ []) (hlast : a.getLast? ≠ some '/') :
    Anchor.read (a ++ ['/']) = Anchor.read a := by
  rcases a with - | ⟨c₁, - | ⟨c₂, - | ⟨c₃, a⟩⟩⟩
  · exact absurd rfl ha
  · have h₁ : c₁ ≠ '/' := fun heq => hlast (by rw [heq]; rfl)
    simp [Anchor.read, h₁]
  · have h₂ : c₂ ≠ '/' := fun heq => hlast (by rw [heq]; rfl)
    by_cases h₁ : c₁ = '/' <;> simp [Anchor.read, h₁, h₂]
  · by_cases h₁ : c₁ = '/' <;> by_cases h₂ : c₂ = '/' <;> by_cases h₃ : c₃ = '/' <;>
      simp [Anchor.read, h₁, h₂, h₃]

/-- A text that does not begin with a slash leads on from a text that ends in one. -/
lemma read_append_of_slash (hlast : a.getLast? = some '/') (hb : b.head? ≠ some '/') :
    read (a ++ b) = (read a).under (read b).segments := by
  obtain ⟨front, rfl⟩ := List.getLast?_eq_some_iff.1 hlast
  have hsegments : (read (front ++ ['/'] ++ b)).segments
      = (read (front ++ ['/'])).segments ++ (read b).segments := by
    have hnil : (read []).segments = [] := rfl
    rw [List.append_assoc, List.singleton_append, segments_read_append_slash,
      segments_read_append_slash, hnil, List.append_nil]
  have hanchor : Anchor.read (front ++ ['/'] ++ b) = Anchor.read (front ++ ['/']) :=
    anchor_read_append_of_no_slash (by simp) hb
  exact congrArg₂ Path.mk hanchor hsegments

/-- A slash at the end of a text that has none there changes nothing. -/
lemma read_append_slash (ha : a ≠ []) (hlast : a.getLast? ≠ some '/') :
    read (a ++ ['/']) = read a := by
  have hsegments : (read (a ++ ['/'])).segments = (read a).segments :=
    (segments_read_append_slash a []).trans (List.append_nil _)
  exact congrArg₂ Path.mk (anchor_read_append_slash ha hlast) hsegments

/-! ## Joining -/

/-- The path that two joined texts denote. -/
lemma read_joinText (a b : Text) : read (joinText a b) = (read a).append (read b) := by
  unfold joinText
  split
  · rename_i hslash
    exact (append_of_anchored _ (anchor_read_of_slash hslash)).symm
  · rename_i hslash
    rw [List.isPrefixOf_iff_prefix, List.singleton_prefix_iff_head?_eq_some] at hslash
    rw [append_of_relative _ (anchor_read_of_no_slash hslash)]
    split
    · rename_i hends
      rw [Bool.or_eq_true, List.isEmpty_iff, List.isSuffixOf_iff_suffix,
        List.singleton_suffix_iff_getLast?_eq_some] at hends
      rcases hends with rfl | hlast
      · rw [← append_of_relative _ (anchor_read_of_no_slash hslash)]
        exact (empty_append _).symm
      · exact read_append_of_slash hlast hslash
    · rename_i hends
      rw [Bool.or_eq_true, List.isEmpty_iff, List.isSuffixOf_iff_suffix,
        List.singleton_suffix_iff_getLast?_eq_some, not_or] at hends
      rw [List.append_cons, read_append_of_slash (by simp) hslash,
        read_append_slash hends.1 hends.2]

lemma read_joinTexts (a : Text) (names : List Text) :
    read (joinTexts a names) = names.foldl (fun p name => p.append (read name)) (read a) := by
  induction names generalizing a with
  | nil => rfl
  | cons name rest ih =>
    rw [List.foldl_cons, ← read_joinText]
    exact ih (joinText a name)

/-- Several texts denote together what they denote when they are joined. -/
lemma ofTexts_cons (a : Text) (names : List Text) :
    ofTexts (a :: names) = read (joinTexts a names) := by
  rw [read_joinTexts]
  unfold ofTexts
  rw [List.foldl_cons, empty_append]

lemma joinTexts_append (a : Text) (names more : List Text) :
    joinTexts a (names ++ more) = joinTexts (joinTexts a names) more :=
  List.foldl_append

/-- Joining brings no characters but slashes. -/
lemma notMem_joinTexts (hc : c ≠ '/') (ha : c ∉ a) (hnames : ∀ name ∈ names, c ∉ name) :
    c ∉ joinTexts a names := by
  induction names generalizing a with
  | nil => exact ha
  | cons name rest ih =>
    obtain ⟨hname, hrest⟩ := List.forall_mem_cons.1 hnames
    refine ih ?_ hrest
    unfold joinText
    split
    · exact hname
    · split
      · exact fun h => (List.mem_append.1 h).elim ha hname
      · rw [List.mem_append, List.mem_cons, not_or, not_or]
        exact ⟨ha, hc, hname⟩

end Path
end YiiNavigator
