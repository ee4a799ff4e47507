import YiiNavigator.Proofs.Path.Parts
import YiiNavigator.Proofs.Path.Plain

/-!
# Settled paths

An anchored path of plain names is settled: it is read back from its text, its text is in normal
form also when backslashes are read as slashes, and joining and splitting that text is adding and
removing names.
-/

namespace YiiNavigator
namespace Path

/-- Whether a path is anchored and its segments are plain. -/
structure IsSettled (p : Path) : Prop where
  anchored : p.anchor ≠ .relative
  plain : ∀ name ∈ p.segments, IsPlain name

variable {p : Path} {name text : Text} {names : List Text}

lemma IsSettled.clean (hp : p.IsSettled) : p.IsClean :=
  fun name h => (hp.plain name h).isName

lemma IsSettled.under (hp : p.IsSettled) (hnames : ∀ name ∈ names, IsPlain name) :
    (p.under names).IsSettled := by
  refine ⟨hp.anchored, fun name h => ?_⟩
  rcases List.mem_append.1 h with h | h
  · exact hp.plain name h
  · exact hnames name h

lemma IsSettled.child (hp : p.IsSettled) (h : IsPlain name) : (p.under [name]).IsSettled :=
  hp.under (List.forall_mem_singleton.2 h)

lemma IsSettled.print_ne_nil (hp : p.IsSettled) : p.print ≠ [] :=
  Path.print_ne_nil hp.anchored

/-! ## Joining and splitting -/

/-- Joining a plain name adds it to the path. -/
lemma IsSettled.joinText (hp : p.IsSettled) (h : IsPlain name) :
    joinText p.print name = (p.under [name]).print :=
  hp.clean.joinText hp.anchored h.isName

/-- Joining plain names adds them to the path in their order. -/
lemma IsSettled.joinTexts (hp : p.IsSettled) (h : ∀ name ∈ names, IsPlain name) :
    joinTexts p.print names = (p.under names).print :=
  hp.clean.joinTexts hp.anchored fun name hname => (h name hname).isName

/-- The parts of a settled path and some names join to the path that the names lead to. -/
lemma IsSettled.joinAll (hp : p.IsSettled) (h : ∀ name ∈ names, IsPlain name) :
    joinAll (p.parts ++ names) = (p.under names).print := by
  have hsettled : IsSettled ⟨p.anchor, []⟩ :=
    ⟨hp.anchored, fun name hname => by cases hname⟩
  have hstart : p.anchor.print = print ⟨p.anchor, []⟩ := by
    rw [print_eq (p := ⟨p.anchor, []⟩) hp.anchored, List.intercalate_nil, List.append_nil]
  have hall : ∀ name ∈ p.segments ++ names, IsPlain name := (hp.under h).plain
  rw [parts_of_anchored hp.anchored, List.cons_append, joinAll_cons, hstart,
    hsettled.joinTexts hall]
  rfl

/-- Splitting takes the last name off the path. -/
lemma IsSettled.splitLast (hp : p.IsSettled) (h : IsPlain name) :
    splitLast (p.under [name]).print = (p.print, name) := by
  rw [print_under (by simp), print_eq_spell (.inl hp.anchored)]
  exact hp.clean.splitLast_spell h.isName

/-! ## Reading and normal form -/

/-- A settled path is read back from its text. -/
lemma IsSettled.read_print (hp : p.IsSettled) : read p.print = p :=
  hp.clean.read_print

/-- A settled path is in normal form. -/
lemma IsSettled.normalize (hp : p.IsSettled) : p.normalize = p :=
  normalize_of_no_up fun h => (hp.plain up h).ne_up rfl

/-- The text with its backslashes turned into slashes. -/
def slashed (text : Text) : Text :=
  text.map fun c => if c = '\\' then '/' else c

lemma canonical_eq (text : Text) : canonical text = normalizeText (slashed text) :=
  rfl

lemma backslash_notMem_slashed (text : Text) : '\\' ∉ slashed text := by
  intro h
  obtain ⟨c, -, hc⟩ := List.mem_map.1 h
  split at hc
  · exact absurd hc (by decide)
  · rename_i hne
    exact hne hc

lemma slashed_eq_self (h : '\\' ∉ text) : slashed text = text := by
  refine List.map_congr_left (g := id) (fun c hc => ?_) |>.trans (List.map_id text)
  have hne : c ≠ '\\' := fun heq => h (by rw [← heq]; exact hc)
  rw [if_neg hne]
  rfl

lemma canonical_of_no_backslash (h : '\\' ∉ text) : canonical text = normalizeText text := by
  rw [canonical_eq, slashed_eq_self h]

lemma IsSettled.no_backslash (hp : p.IsSettled) : '\\' ∉ p.print := by
  intro h
  rcases mem_print h with h | h | ⟨name, hname, hc⟩
  · exact absurd h (by decide)
  · exact absurd h (by decide)
  · exact (hp.plain name hname).no_backslash hc

lemma IsSettled.canonical (hp : p.IsSettled) : canonical p.print = p.print := by
  rw [canonical_of_no_backslash hp.no_backslash, normalizeText, hp.read_print, hp.normalize]

/-! ## Roots -/

/-- Whether a text is an absolute path in normal form, without backslashes. -/
structure IsRoot (root : Text) : Prop where
  absolute : ['/'].isPrefixOf root = true
  normal : normalizeText root = root
  no_backslash : '\\' ∉ root

instance (root : Text) : Decidable (IsRoot root) :=
  decidable_of_iff (['/'].isPrefixOf root = true ∧ normalizeText root = root ∧ '\\' ∉ root)
    ⟨fun ⟨h₁, h₂, h₃⟩ => ⟨h₁, h₂, h₃⟩, fun ⟨h₁, h₂, h₃⟩ => ⟨h₁, h₂, h₃⟩⟩

/-- A root is the text of a settled path. -/
lemma IsRoot.exists_settled {root : Text} (h : IsRoot root) :
    ∃ p : Path, p.IsSettled ∧ p.print = root := by
  have hanchor : (read root).anchor ≠ .relative := anchor_read_of_slash h.absolute
  have hsegments : ∀ name ∈ (read root).segments, name ≠ up → IsPlain name := by
    intro name hname hup
    have hclean : IsName name := isClean_read root name hname
    have hpiece := (List.mem_filter.1 hname).1
    exact ⟨hclean.ne_nil, hclean.no_slash,
      fun hc => h.no_backslash (mem_of_mem_splitOn hpiece hc).1, hclean.ne_here, hup⟩
  refine ⟨(read root).normalize, ⟨hanchor, fun name hname => ?_⟩, h.normal⟩
  exact forall_mem_foldl_push (fun hrelative => absurd hrelative hanchor) hsegments
    (fun name hname => by cases hname) name (List.mem_reverse.1 hname)

end Path
end YiiNavigator
