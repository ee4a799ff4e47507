import YiiNavigator.Convention
import YiiNavigator.Proofs.Path.Clean

/-!
# Plain names

A plain name stands for itself when it is a segment of a path. A name that an extension follows
gives the name back as its stem.
-/

namespace YiiNavigator

namespace Path

/-! ## Names without a meaning of their own -/

/-- Whether a text is a name that stands for itself in a path: neither empty, nor one of the two
segments with a meaning, and without slashes of both kinds. -/
structure IsPlain (name : Text) : Prop where
  ne_nil : name ≠ []
  no_slash : '/' ∉ name
  no_backslash : '\\' ∉ name
  ne_here : name ≠ here
  ne_up : name ≠ up

instance (name : Text) : Decidable (IsPlain name) :=
  decidable_of_iff (name ≠ [] ∧ '/' ∉ name ∧ '\\' ∉ name ∧ name ≠ here ∧ name ≠ up)
    ⟨fun ⟨h₁, h₂, h₃, h₄, h₅⟩ => ⟨h₁, h₂, h₃, h₄, h₅⟩,
      fun ⟨h₁, h₂, h₃, h₄, h₅⟩ => ⟨h₁, h₂, h₃, h₄, h₅⟩⟩

variable {name base extension : Text}

lemma IsPlain.isName (h : IsPlain name) : IsName name :=
  ⟨h.ne_nil, h.no_slash, h.ne_here⟩

/-- A plain name is a relative path of one segment. -/
lemma IsPlain.read (h : IsPlain name) : read name = ⟨.relative, [name]⟩ :=
  h.isName.read

lemma IsPlain.stemOf (h : IsPlain name) : stemOf name = stem name := by
  unfold Path.stemOf
  rw [h.read]
  rfl

lemma isPrefix_stem (name : Text) : stem name <+: name := by
  unfold stem
  dsimp only
  split
  · exact List.take_prefix _ _
  · exact List.prefix_refl _

/-! ## Extensions -/

/-- An extension is a dot and characters that are no dots and no slashes. -/
lemma exists_of_isExtension (h : isExtension extension = true) :
    ∃ rest, extension = '.' :: rest ∧ rest ≠ [] ∧ '.' ∉ rest ∧ '/' ∉ rest ∧ '\\' ∉ rest := by
  unfold isExtension at h
  split at h
  · rename_i rest
    simp only [Bool.and_eq_true, Bool.not_eq_true', List.isEmpty_eq_false_iff, List.all_eq_true]
      at h
    refine ⟨rest, rfl, h.1, fun hdot => ?_, fun hslash => ?_, fun hslash => ?_⟩
    · exact absurd (h.2 _ hdot) (by decide)
    · exact absurd (h.2 _ hslash) (by decide)
    · exact absurd (h.2 _ hslash) (by decide)
  · cases h

/-- The stem of a name with an extension is the name. -/
lemma stem_append (hbase : base ≠ []) (h : isExtension extension = true) :
    stem (base ++ extension) = base := by
  obtain ⟨rest, rfl, hrest, hdot, -⟩ := exists_of_isExtension h
  unfold stem
  rw [Text.takeWhile_reverse_ne hdot]
  have hlength : (base ++ '.' :: rest).length = base.length + (rest.length + 1) := by
    rw [List.length_append, List.length_cons]
  have htake : (base ++ '.' :: rest).take ((base ++ '.' :: rest).length - rest.length - 1)
      = base := by
    rw [hlength, show base.length + (rest.length + 1) - rest.length - 1 = base.length by omega]
    exact List.take_left
  dsimp only
  rw [htake]
  exact if_pos ⟨by omega, hrest, hbase⟩

/-- A text without slashes is a plain name when an extension follows it: its last character is no
dot. -/
lemma isPlain_append (hslash : '/' ∉ base) (hback : '\\' ∉ base)
    (h : isExtension extension = true) : IsPlain (base ++ extension) := by
  obtain ⟨rest, rfl, hrest, hdot, hslash', hback'⟩ := exists_of_isExtension h
  have hlast : (base ++ '.' :: rest).getLast? ≠ some '.' := by
    rw [List.append_cons, List.getLast?_append_of_ne_nil _ hrest]
    exact fun h => hdot (List.mem_of_getLast? h)
  refine ⟨by simp, ?_, ?_, fun h => ?_, fun h => ?_⟩
  · simp [hslash, hslash']
  · simp [hback, hback']
  · rw [h] at hlast
    exact hlast rfl
  · rw [h] at hlast
    exact hlast rfl

lemma IsPlain.append_extension (hbase : IsPlain base) (h : isExtension extension = true) :
    IsPlain (base ++ extension) :=
  isPlain_append hbase.no_slash hbase.no_backslash h

end Path
end YiiNavigator
