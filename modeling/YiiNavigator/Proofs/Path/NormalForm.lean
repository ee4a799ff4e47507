import YiiNavigator.Proofs.Path.Canonical

/-!
# Texts in normal form

The texts that taking the normal form leaves as they are, when backslashes count as slashes, are
those of canonical paths (`canonical_eq_self_iff`). Such a text is cut at its last slash into a
directory and a name, and with an extension behind it, or another name in place of the last one, it
is in normal form again.
-/

namespace YiiNavigator
namespace Path

variable {p : Path} {name text extension : Text} {names : List Text}

/-! ## Normal forms -/

/-- Segments pile up as long as those that lead up come first. -/
lemma foldl_push_of_isChain (stack : List Text)
    (h : (stack.reverse ++ names).IsChain fun above name => name = up → above = up) :
    names.foldl (push .relative) stack = names.reverse ++ stack := by
  induction names generalizing stack with
  | nil => rfl
  | cons name rest ih =>
    have hpush : push .relative stack name = name :: stack := by
      unfold push
      split
      · rename_i hup
        rcases stack with - | ⟨top, below⟩
        · rw [hup]
          rfl
        · -- the segment right before one that leads up does so too, and is not cancelled
          have htop : top = up := by
            rw [List.reverse_cons, List.append_assoc] at h
            exact (List.isChain_cons_cons.1 h.right_of_append).1 hup
          dsimp only
          rw [if_pos htop, hup]
      · rfl
    have hrest : ((name :: stack).reverse ++ rest).IsChain
        fun above name => name = up → above = up := by
      rw [List.reverse_cons, List.append_assoc]
      exact h
    rw [List.foldl_cons, hpush, ih _ hrest, List.reverse_cons, List.append_assoc]
    rfl

/-- A path whose segments lead up only in front, and below an anchor not at all, is in normal
form. -/
lemma normalize_of_isChain (h : p.segments.IsChain fun above name => name = up → above = up)
    (hup : p.anchor ≠ .relative → up ∉ p.segments) : p.normalize = p := by
  by_cases hanchor : p.anchor = .relative
  · have hfold : p.segments.foldl (push .relative) [] = p.segments.reverse :=
      (foldl_push_of_isChain [] h).trans (List.append_nil _)
    unfold Path.normalize
    rw [hanchor, hfold, List.reverse_reverse, ← hanchor]
  · exact normalize_of_no_up (hup hanchor)

lemma normalizeText_normalizeText (text : Text) :
    normalizeText (normalizeText text) = normalizeText text := by
  have hnormalize : (read text).normalize.normalize = (read text).normalize :=
    normalize_of_isChain (isChain_normalize _) fun hanchor => up_notMem_normalize hanchor
  rw [normalizeText, read_normalizeText, hnormalize]
  rfl

/-! ## Canonical paths -/

/-- Whether the segments of a path are names without backslashes and lead up only in front of all
others, and below an anchor not at all. -/
structure IsCanonical (p : Path) : Prop where
  clean : p.IsClean
  no_backslash : ∀ name ∈ p.segments, '\\' ∉ name
  up_first : p.segments.IsChain fun above name => name = up → above = up
  no_up : p.anchor ≠ .relative → up ∉ p.segments

/-- A normal form is canonical. -/
lemma isCanonical_read (text : Text) : (read (canonical text)).IsCanonical where
  clean := fun _ h => (isName_of_mem_canonical h).1
  no_backslash := fun _ h => (isName_of_mem_canonical h).2
  up_first := by
    rw [read_canonical]
    exact isChain_normalize _
  no_up := by
    rw [read_canonical]
    exact fun hanchor => up_notMem_normalize hanchor

lemma IsCanonical.normalize (hp : p.IsCanonical) : p.normalize = p :=
  normalize_of_isChain hp.up_first hp.no_up

lemma IsCanonical.backslash_notMem_print (hp : p.IsCanonical) : '\\' ∉ p.print := by
  intro h
  rcases mem_print h with h | h | ⟨name, hname, hc⟩
  · exact absurd h (by decide)
  · exact absurd h (by decide)
  · exact hp.no_backslash name hname hc

/-- The text of a canonical path is in normal form. -/
lemma IsCanonical.canonical (hp : p.IsCanonical) : canonical p.print = p.print := by
  rw [canonical_of_no_backslash hp.backslash_notMem_print, normalizeText, hp.clean.read_print,
    hp.normalize]

/-- The texts in normal form are those of canonical paths. -/
lemma canonical_eq_self_iff :
    canonical text = text ↔ ∃ p : Path, p.IsCanonical ∧ p.print = text := by
  constructor
  · intro h
    refine ⟨read (Path.canonical text), isCanonical_read text, ?_⟩
    rw [read_canonical]
    exact h
  · rintro ⟨p, hp, rfl⟩
    exact hp.canonical

/-- Taking the normal form once is enough. -/
lemma canonical_canonical (text : Text) :
    Path.canonical (Path.canonical text) = Path.canonical text := by
  refine canonical_eq_self_iff.2 ⟨read (Path.canonical text), isCanonical_read text, ?_⟩
  rw [read_canonical]
  rfl

/-- A text in normal form is in normal form as well when backslashes are characters like others. -/
lemma normalizeText_of_canonical (h : Path.canonical text = text) : normalizeText text = text := by
  obtain ⟨p, hp, rfl⟩ := canonical_eq_self_iff.1 h
  rw [← canonical_of_no_backslash hp.backslash_notMem_print, hp.canonical]

/-! ## Names at the end -/

/-- A name that does not lead up may come behind a canonical path. -/
lemma IsCanonical.child (hp : p.IsCanonical) (h : IsPlain name) : (p.under [name]).IsCanonical where
  clean := hp.clean.child h.isName
  no_backslash := by
    intro other hother
    rcases List.mem_append.1 hother with hother | hother
    · exact hp.no_backslash other hother
    · rw [List.mem_singleton.1 hother]
      exact h.no_backslash
  up_first := by
    refine hp.up_first.append (List.isChain_singleton name) fun above _ other hother hup => ?_
    cases hother
    exact absurd hup h.ne_up
  no_up := by
    intro hanchor hup
    rcases List.mem_append.1 hup with hup | hup
    · exact hp.no_up hanchor hup
    · exact h.ne_up (List.mem_singleton.1 hup).symm

/-- What comes before the last segment of a canonical path is canonical. -/
lemma IsCanonical.parent (hp : (p.under [name]).IsCanonical) : p.IsCanonical where
  clean := fun other h => hp.clean other (List.mem_append_left _ h)
  no_backslash := fun other h => hp.no_backslash other (List.mem_append_left _ h)
  up_first := hp.up_first.left_of_append
  no_up := fun hanchor hup => hp.no_up hanchor (List.mem_append_left _ hup)

/-- A text in normal form is cut at its last slash into a directory and a base. What is put behind
the text is put behind the base. At an anchor the base is empty, and the base of `.` is `.`. -/
lemma IsCanonical.exists_splitLast (hp : p.IsCanonical) :
    ∃ (directory : Path) (base : Text), directory.IsCanonical ∧ '/' ∉ base ∧ '\\' ∉ base
      ∧ splitLast p.print = (directory.spell, base)
      ∧ ∀ ending, p.print ++ ending = (directory.under [base ++ ending]).spell := by
  by_cases hnil : p.segments = []
  · have hspell : ∀ name : Text, (p.under [name]).spell = p.spell ++ name := fun name => by
      rw [spell_under_singleton, if_pos hnil]
    obtain ⟨anchor, segments⟩ := p
    obtain rfl : segments = [] := hnil
    rcases anchor with - | - | -
    · exact ⟨_, here, hp, by decide, by decide, rfl, fun ending => (hspell _).symm⟩
    · exact ⟨_, [], hp, by decide, by decide, rfl, fun ending => (hspell _).symm⟩
    · exact ⟨_, [], hp, by decide, by decide, rfl, fun ending => (hspell _).symm⟩
  · obtain ⟨directory, base, rfl⟩ := exists_eq_under hnil
    have hmem : base ∈ (directory.under [base]).segments :=
      List.mem_append_right _ List.mem_cons_self
    have hbase : IsName base := hp.clean base hmem
    refine ⟨directory, base, hp.parent, hbase.no_slash, hp.no_backslash base hmem, ?_, ?_⟩
    · rw [print_under (List.cons_ne_nil _ _)]
      exact hp.parent.clean.splitLast_spell hbase
    · intro ending
      rw [print_under (List.cons_ne_nil _ _), spell_under_singleton, spell_under_singleton]
      split
      · rw [List.append_assoc]
      · rw [List.append_assoc]
        rfl

/-- An extension behind a text in normal form makes its base a file name. -/
lemma IsCanonical.canonical_append (hp : p.IsCanonical)
    (hextension : isExtension extension = true) :
    Path.canonical (p.print ++ extension) = p.print ++ extension := by
  obtain ⟨directory, base, hdirectory, hslash, hback, -, happend⟩ := hp.exists_splitLast
  have hname : IsPlain (base ++ extension) := isPlain_append hslash hback hextension
  rw [happend, ← print_under (List.cons_ne_nil _ _)]
  exact (hdirectory.child hname).canonical

end Path
end YiiNavigator
