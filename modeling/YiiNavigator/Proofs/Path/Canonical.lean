import Mathlib.Data.List.Chain
import YiiNavigator.Proofs.Path.Below
import YiiNavigator.Proofs.Path.Settled

/-!
# Canonical paths

What the segments of a text in normal form are when backslashes count as slashes: names without
backslashes, those that lead up in front of all others. A text that is put behind a directory leads
on from it by the segments of the text, as long as none of them leads up.
-/

namespace YiiNavigator
namespace Path

variable {p : Path} {anchor : Anchor} {text : Text} {names : List Text}

/-! ## Segments in normal form -/

lemma read_canonical (text : Text) : read (canonical text) = (read (slashed text)).normalize :=
  read_normalizeText (slashed text)

/-- The segments of a canonical path are names without backslashes. -/
lemma isName_of_mem_canonical {name : Text} (h : name ∈ (read (canonical text)).segments) :
    IsName name ∧ '\\' ∉ name := by
  have hpieces : ∀ name ∈ (read (slashed text)).segments, IsName name ∧ '\\' ∉ name := by
    intro name hname
    have hpiece := (List.mem_filter.1 hname).1
    exact ⟨isClean_read _ name hname, fun hc =>
      backslash_notMem_slashed text (mem_of_mem_splitOn hpiece hc).1⟩
  have hup : IsName up ∧ '\\' ∉ up := ⟨⟨by decide, by decide, by decide⟩, by decide⟩
  rw [read_canonical] at h
  exact forall_mem_foldl_push (fun _ => hup) (fun name hname _ => hpieces name hname)
    (fun name hname => by cases hname) name (List.mem_reverse.1 h)

lemma isChain_push {stack : List Text} (h : stack.IsChain fun name below => name = up → below = up)
    (name : Text) : (push anchor stack name).IsChain fun name below => name = up → below = up := by
  unfold push
  split
  · rcases stack with - | ⟨top, below⟩
    · dsimp only
      split
      · exact List.isChain_singleton up
      · exact List.isChain_nil
    · dsimp only
      split
      · rename_i htop
        exact List.isChain_cons_cons.2 ⟨fun _ => htop, h⟩
      · exact h.tail
  · rename_i hname
    exact h.cons fun below _ heq => absurd heq hname

/-- In normal form, only segments that lead up stand before one that leads up. -/
lemma isChain_normalize (p : Path) :
    p.normalize.segments.IsChain fun above name => name = up → above = up := by
  have hfold : ∀ stack : List Text, (stack.IsChain fun name below => name = up → below = up) →
      (p.segments.foldl (push p.anchor) stack).IsChain
        fun name below => name = up → below = up := by
    induction p.segments with
    | nil => exact fun stack h => h
    | cons first rest ih => exact fun stack h => ih _ (isChain_push h first)
  exact List.isChain_reverse.2 (hfold [] List.isChain_nil)

/-! ## A text behind a directory -/

/-- The segments of a text; backslashes separate them like slashes. -/
def segmentsOf (text : Text) : List Text :=
  (read (slashed text)).segments

/-- A slash in front adds no segment. -/
lemma segmentsOf_slash_cons (text : Text) : segmentsOf ('/' :: text) = segmentsOf text :=
  segments_read_append_slash [] (slashed text)

/-- The segments of a text none of which leads up are plain. -/
lemma isPlain_of_mem_segmentsOf (hup : up ∉ segmentsOf text) :
    ∀ name ∈ segmentsOf text, IsPlain name := by
  intro name hname
  have hpiece := (List.mem_filter.1 hname).1
  have hclean : IsName name := isClean_read _ name hname
  exact ⟨hclean.ne_nil, hclean.no_slash,
    fun hc => backslash_notMem_slashed text (mem_of_mem_splitOn hpiece hc).1, hclean.ne_here,
    fun heq => hup (heq ▸ hname)⟩

/-- An extension makes the last piece of a text a plain segment and leaves the other pieces. -/
lemma exists_segmentsOf_append (text : Text) {extension : Text}
    (hextension : isExtension extension = true) :
    ∃ front last, segmentsOf (text ++ extension) = front ++ [last] ∧ front ⊆ segmentsOf text
      ∧ IsPlain last := by
  have hslashed : slashed (text ++ extension) = slashed text ++ extension := by
    obtain ⟨rest, rfl, -, -, -, hback⟩ := exists_of_isExtension hextension
    have hself : slashed ('.' :: rest) = '.' :: rest :=
      slashed_eq_self (by simpa using hback)
    exact List.map_append.trans (congrArg (slashed text ++ ·) hself)
  have hpiece : ∀ last, last ⊆ slashed text → '/' ∉ last → IsPlain (last ++ extension) :=
    fun last hmem hslash => isPlain_append hslash
      (fun hback => backslash_notMem_slashed text (hmem hback)) hextension
  unfold segmentsOf
  rw [hslashed]
  by_cases hslash : '/' ∈ slashed text
  · obtain ⟨front, last, heq, hlast⟩ := Text.exists_last hslash
    have hplain := hpiece last (heq ▸ fun c hc => by simp [hc]) hlast
    have hread := congrArg Path.segments hplain.read
    refine ⟨(read front).segments, _, ?_, ?_, hplain⟩
    · rw [heq, List.append_assoc]
      exact (segments_read_append_slash front (last ++ extension)).trans
        (congrArg (_ ++ ·) hread)
    · rw [heq, segments_read_append_slash]
      exact List.subset_append_left _ _
  · have hplain := hpiece _ (List.Subset.refl _) hslash
    refine ⟨[], _, ?_, List.nil_subset _, hplain⟩
    rw [hplain.read]
    rfl

/-- Below a settled path with names, a text none of whose segments leads up leads on to those
segments. -/
lemma IsSettled.canonical_append_slash (hp : p.IsSettled) (hne : p.segments ≠ [])
    (hup : up ∉ segmentsOf text) :
    Path.canonical (p.print ++ '/' :: text) = (p.under (segmentsOf text)).print := by
  have hslashed : slashed (p.print ++ '/' :: text) = p.print ++ '/' :: slashed text := by
    show List.map _ _ = _
    rw [List.map_append]
    exact congrArg (· ++ _) (slashed_eq_self hp.no_backslash)
  have hnone : up ∉ (p.under (segmentsOf text)).segments := fun h =>
    ((hp.under (isPlain_of_mem_segmentsOf hup)).plain up h).ne_up rfl
  rw [canonical_eq, hslashed, normalizeText, hp.clean.read_append_slash_cons hne]
  exact congrArg print (normalize_of_no_up hnone)

/-- A name that comes with a slash behind a path with names is added to it. -/
lemma IsSettled.append_slash {name : Text} (hp : p.IsSettled) (hne : p.segments ≠ []) :
    p.print ++ '/' :: name = (p.under [name]).print := by
  rw [print_under_singleton hp.anchored, if_neg hne]

/-- Joining puts a slash before a text that has none. -/
lemma IsSettled.joinText_eq_append (hp : p.IsSettled) (hne : p.segments ≠ [])
    (h : ['/'].isPrefixOf text = false) : Path.joinText p.print text = p.print ++ '/' :: text := by
  have hempty : p.print.isEmpty = false := List.isEmpty_eq_false_iff.2 hp.print_ne_nil
  unfold Path.joinText
  rw [h, hempty, hp.clean.isSuffixOf_slash hp.anchored, decide_eq_false hne]
  rfl

/-! ## Directories and what lies in them -/

/-- Whether a text is an absolute path in normal form, without backslashes, that has a name. -/
structure IsDirectory (directory : Text) : Prop extends IsRoot directory where
  has_name : (read directory).segments ≠ []

instance (directory : Text) : Decidable (IsDirectory directory) :=
  decidable_of_iff (IsRoot directory ∧ (read directory).segments ≠ [])
    ⟨fun ⟨h₁, h₂⟩ => ⟨h₁, h₂⟩, fun ⟨h₁, h₂⟩ => ⟨h₁, h₂⟩⟩

lemma IsDirectory.exists_settled {directory : Text} (h : IsDirectory directory) :
    ∃ p : Path, p.IsSettled ∧ p.print = directory ∧ p.segments ≠ [] := by
  obtain ⟨p, hp, rfl⟩ := h.toIsRoot.exists_settled
  refine ⟨p, hp, rfl, ?_⟩
  rw [← hp.read_print]
  exact h.has_name

/-- Whether a path lies in a directory or further below it: names lead from the directory to it,
none of which leads up. -/
def IsBelow (directory path : Text) : Prop :=
  ∃ names, names ≠ [] ∧ (∀ name ∈ names, IsPlain name) ∧ path = joinTexts directory names

lemma IsSettled.isBelow (hp : p.IsSettled) (hne : names ≠ [])
    (hnames : ∀ name ∈ names, IsPlain name) : IsBelow p.print (p.under names).print :=
  ⟨names, hne, hnames, (hp.joinTexts hnames).symm⟩

/-- The segments of what lies below a directory begin with those of the directory. -/
lemma IsBelow.isPrefix_segments {directory path : Text} (h : IsBelow directory path)
    (hdirectory : IsRoot directory) : (read directory).segments <+: (read path).segments := by
  obtain ⟨p, hp, rfl⟩ := hdirectory.exists_settled
  obtain ⟨names, -, hnames, rfl⟩ := h
  rw [hp.joinTexts hnames, (hp.under hnames).read_print, hp.read_print]
  exact List.prefix_append _ _

/-- What lies below a directory lies below those that lead to it. -/
lemma IsSettled.isBelow_of_under {path : Text} (hp : p.IsSettled)
    (hnames : ∀ name ∈ names, IsPlain name) (h : IsBelow (p.under names).print path) :
    IsBelow p.print path := by
  obtain ⟨more, hne, hmore, rfl⟩ := h
  rw [(hp.under hnames).joinTexts hmore, under_under]
  exact hp.isBelow (List.append_ne_nil_of_right_ne_nil _ hne)
    (List.forall_mem_append.2 ⟨hnames, hmore⟩)

/-- A text with an extension leads below the directory that it is joined to, unless it begins with
a slash or leads up. -/
lemma IsSettled.isBelow_canonical {extension : Text} (hp : p.IsSettled) (hne : p.segments ≠ [])
    (hslash : ['/'].isPrefixOf text = false) (hup : up ∉ segmentsOf text)
    (hextension : isExtension extension = true) :
    IsBelow p.print (Path.canonical (Path.joinText p.print (text ++ extension))) := by
  obtain ⟨front, last, hsegments, hfront, hlast⟩ := exists_segmentsOf_append text hextension
  have hnone : up ∉ segmentsOf (text ++ extension) := by
    rw [hsegments, List.mem_append, List.mem_singleton, not_or]
    exact ⟨fun h => hup (hfront h), hlast.ne_up.symm⟩
  have hrelative : ['/'].isPrefixOf (text ++ extension) = false := by
    rcases text with - | ⟨c, rest⟩
    · obtain ⟨rest, rfl, -⟩ := exists_of_isExtension hextension
      rfl
    · exact hslash
  rw [hp.joinText_eq_append hne hrelative, hp.canonical_append_slash hne hnone]
  refine hp.isBelow ?_ (isPlain_of_mem_segmentsOf hnone)
  rw [hsegments]
  exact List.append_ne_nil_of_right_ne_nil _ (List.cons_ne_nil _ _)

end Path
end YiiNavigator
