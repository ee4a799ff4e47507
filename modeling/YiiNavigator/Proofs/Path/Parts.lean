import YiiNavigator.Proofs.Path.Clean

/-!
# The parts of a path

The parts of an anchored path begin with the text of its anchor, which no segment is. So the parts
of one path begin with those of another exactly when the one path leads on from the other.
-/

namespace YiiNavigator
namespace Path

variable {p r : Path} {anchor : Anchor}

lemma parts_of_relative (h : p.anchor = .relative) : p.parts = p.segments := by
  unfold parts
  rw [h]

lemma parts_of_anchored (h : p.anchor ≠ .relative) : p.parts = p.anchor.print :: p.segments := by
  unfold parts
  split
  · rename_i hrelative
    exact absurd hrelative h
  · rfl

/-- The anchor is spelled with slashes, and so is no segment. -/
lemma IsClean.print_anchor_notMem (hp : p.IsClean) (h : anchor ≠ .relative) :
    anchor.print ∉ p.segments := by
  intro hmem
  exact (hp _ hmem).no_slash (slash_mem_anchor_print h)

lemma anchor_print_inj {other : Anchor} : anchor.print = other.print ↔ anchor = other := by
  cases anchor <;> cases other <;> decide

/-- The parts of one path begin with those of another when the segments do and the anchors are
the same. -/
lemma IsClean.prefix_parts_iff (hr : r.IsClean) (hp : p.IsClean) (hne : r.parts ≠ []) :
    r.parts <+: p.parts ↔ r.anchor = p.anchor ∧ r.segments <+: p.segments := by
  by_cases hrelative : r.anchor = .relative
  · rw [parts_of_relative hrelative] at hne ⊢
    by_cases hother : p.anchor = .relative
    · rw [parts_of_relative hother, hrelative, hother, and_iff_right rfl]
    · rw [parts_of_anchored hother, hrelative]
      constructor
      · intro hbegins
        obtain ⟨first, rest, hsegments⟩ := List.exists_cons_of_ne_nil hne
        rw [hsegments, List.cons_prefix_cons] at hbegins
        refine absurd ?_ (hr.print_anchor_notMem hother)
        rw [hsegments, hbegins.1]
        exact List.mem_cons_self
      · rintro ⟨hanchor, -⟩
        exact absurd hanchor.symm hother
  · rw [parts_of_anchored hrelative]
    by_cases hother : p.anchor = .relative
    · rw [parts_of_relative hother, hother]
      constructor
      · intro hbegins
        exact absurd (hbegins.subset List.mem_cons_self) (hp.print_anchor_notMem hrelative)
      · rintro ⟨hanchor, -⟩
        exact absurd hanchor hrelative
    · rw [parts_of_anchored hother, List.cons_prefix_cons, anchor_print_inj]

/-- What is left of the parts of a path behind those of one with the same anchor. -/
lemma drop_parts (h : r.anchor = p.anchor) :
    p.parts.drop r.parts.length = p.segments.drop r.segments.length := by
  by_cases hrelative : r.anchor = .relative
  · rw [parts_of_relative hrelative, parts_of_relative (h ▸ hrelative)]
  · rw [parts_of_anchored hrelative, parts_of_anchored (h ▸ hrelative)]
    rfl

end Path
end YiiNavigator
