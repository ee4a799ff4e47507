import YiiNavigator.Proofs.Path.Canonical
import YiiNavigator.Proofs.Path.Joining

/-!
# The segments of joined texts

When backslashes count as slashes, the seam of two joined texts may be made of slashes of both
kinds, and the anchor of the whole may be another than that of the first text. The segments do not
depend on it: plain names that are joined to a text come behind its segments, also when the joined
text is printed as a path (`segmentsOf_print_read`), and they are still the last ones in normal form
(`segments_canonical`).
-/

namespace YiiNavigator
namespace Path

variable {a b name path root : Text} {names : List Text}

/-! ## Segments -/

/-- A slash parts the segments before it from those behind it. -/
lemma segmentsOf_append_slash (a b : Text) :
    segmentsOf (a ++ '/' :: b) = segmentsOf a ++ segmentsOf b := by
  have hslashed : slashed (a ++ '/' :: b) = slashed a ++ '/' :: slashed b := List.map_append
  unfold segmentsOf
  rw [hslashed, segments_read_append_slash]

lemma IsPlain.segmentsOf (h : IsPlain name) : segmentsOf name = [name] := by
  unfold Path.segmentsOf
  rw [slashed_eq_self h.no_backslash, h.read]

/-- A plain name that is joined to a text comes behind its segments. -/
lemma segmentsOf_joinText (a : Text) (h : IsPlain name) :
    segmentsOf (joinText a name) = segmentsOf a ++ [name] := by
  have hslash : ¬['/'].isPrefixOf name = true := by
    rw [List.isPrefixOf_iff_prefix, List.singleton_prefix_iff_head?_eq_some]
    exact fun hhead => h.no_slash (List.mem_of_mem_head? hhead)
  unfold joinText
  rw [if_neg hslash]
  split
  · rename_i hends
    rw [Bool.or_eq_true, List.isEmpty_iff, List.isSuffixOf_iff_suffix] at hends
    rcases hends with rfl | ⟨front, rfl⟩
    · exact h.segmentsOf
    · have hfront : segmentsOf (front ++ ['/']) = segmentsOf front :=
        (segmentsOf_append_slash front []).trans (List.append_nil _)
      rw [hfront, List.append_assoc, List.singleton_append, segmentsOf_append_slash, h.segmentsOf]
  · rw [segmentsOf_append_slash, h.segmentsOf]

lemma segmentsOf_joinTexts (a : Text) (h : ∀ name ∈ names, IsPlain name) :
    segmentsOf (joinTexts a names) = segmentsOf a ++ names := by
  induction names generalizing a with
  | nil => exact (List.append_nil _).symm
  | cons name rest ih =>
    obtain ⟨hname, hrest⟩ := List.forall_mem_cons.1 h
    show segmentsOf (joinTexts (joinText a name) rest) = _
    rw [ih _ hrest, segmentsOf_joinText a hname, List.append_assoc, List.singleton_append]

/-! ## Printed paths -/

/-- The segments of pieces with slashes between them are those of the pieces. -/
lemma segmentsOf_intercalate (pieces : List Text) :
    segmentsOf (['/'].intercalate pieces) = pieces.flatMap segmentsOf := by
  induction pieces with
  | nil => rfl
  | cons first rest ih =>
    rcases rest with - | ⟨second, rest⟩
    · simp
    · rw [List.intercalate_cons_cons, List.append_assoc, List.singleton_append,
        segmentsOf_append_slash, ih, ← List.flatMap_cons]

/-- A piece that is no segment has none when backslashes count as slashes. -/
lemma flatMap_segmentsOf_filter (pieces : List Text) :
    (pieces.filter isSegment).flatMap segmentsOf = pieces.flatMap segmentsOf := by
  induction pieces with
  | nil => rfl
  | cons first rest ih =>
    rw [List.filter_cons, List.flatMap_cons]
    split
    · rw [List.flatMap_cons, ih]
    · rename_i hsegment
      have hnone : segmentsOf first = [] := by
        simp only [isSegment, Bool.not_eq_true', Bool.not_eq_false, Bool.or_eq_true, beq_iff_eq]
          at hsegment
        rcases hsegment with rfl | rfl
        · rfl
        · rfl
      rw [hnone, ih]
      rfl

lemma segmentsOf_anchor_append (anchor : Anchor) (text : Text) :
    segmentsOf (anchor.print ++ text) = segmentsOf text := by
  rcases anchor with - | - | -
  · rfl
  · exact segmentsOf_slash_cons text
  · exact (segmentsOf_slash_cons ('/' :: text)).trans (segmentsOf_slash_cons text)

/-- A text that is printed as a path has the segments that it had. -/
lemma segmentsOf_print_read (text : Text) : segmentsOf (read text).print = segmentsOf text := by
  have hpieces : segmentsOf text = (read text).segments.flatMap segmentsOf := by
    calc segmentsOf text
        = segmentsOf (['/'].intercalate (text.splitOn '/')) := by rw [List.intercalate_splitOn]
      _ = (text.splitOn '/').flatMap segmentsOf := segmentsOf_intercalate _
      _ = (read text).segments.flatMap segmentsOf := (flatMap_segmentsOf_filter _).symm
  rw [hpieces]
  by_cases hempty : (read text).anchor = .relative ∧ (read text).segments = []
  · -- the relative path without segments is printed as the segment that stays in place
    obtain ⟨hanchor, hsegments⟩ := hempty
    unfold print
    rw [hanchor, hsegments]
    rfl
  · rw [print_eq_spell (not_and_or.1 hempty), spell, segmentsOf_anchor_append,
      segmentsOf_intercalate]

/-! ## Normal form -/

/-- Names that do not lead up are the last ones in normal form. -/
lemma segments_canonical (hup : up ∉ names) (h : segmentsOf path = segmentsOf root ++ names) :
    (read (canonical path)).segments
      = (normalize ⟨(read (canonical path)).anchor, segmentsOf root⟩).segments ++ names := by
  have hanchor : (read (canonical path)).anchor = (read (slashed path)).anchor := by
    rw [read_canonical]
    rfl
  have hsegments : (read (slashed path)).segments = segmentsOf root ++ names := h
  rw [hanchor, read_canonical]
  unfold normalize
  dsimp only
  rw [hsegments, List.foldl_append, foldl_push _ hup, List.reverse_append, List.reverse_reverse]

end Path
end YiiNavigator
