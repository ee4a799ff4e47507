import Mathlib.Data.List.Basic
import Mathlib.Data.List.TakeWhile
import YiiNavigator.Proofs.Text.Basic
import YiiNavigator.Path.Basic

/-!
# Clean paths

A path is clean when its segments are such as are read from a text. Reading, normalizing and adding
names give clean paths, and a clean path is read back from its text. On the texts of anchored clean
paths, joining and splitting are adding and removing names.
-/

namespace YiiNavigator
namespace Path

/-- Whether a text is a segment as it is read: not empty, without slashes, and not the one that
stays in place. -/
structure IsName (name : Text) : Prop where
  ne_nil : name ≠ []
  no_slash : '/' ∉ name
  ne_here : name ≠ here

/-- Whether the segments of a path are such as are read. -/
def IsClean (p : Path) : Prop :=
  ∀ name ∈ p.segments, IsName name

/-- The path that leads on from another by some names. -/
def under (p : Path) (names : List Text) : Path :=
  ⟨p.anchor, p.segments ++ names⟩

variable {p : Path} {anchor : Anchor} {name text : Text} {names : List Text}

lemma IsName.isSegment (h : IsName name) : isSegment name = true := by
  simp [Path.isSegment, h.ne_nil, h.ne_here]

lemma IsClean.under (hp : p.IsClean) (hnames : ∀ name ∈ names, IsName name) :
    (p.under names).IsClean := by
  intro name h
  rcases List.mem_append.1 h with h | h
  · exact hp name h
  · exact hnames name h

lemma IsClean.child (hp : p.IsClean) (h : IsName name) : (p.under [name]).IsClean :=
  hp.under (List.forall_mem_singleton.2 h)

lemma under_nil : p.under [] = p := by
  unfold Path.under
  rw [List.append_nil]

lemma under_under (others : List Text) :
    (p.under names).under others = p.under (names ++ others) := by
  unfold Path.under
  rw [List.append_assoc]

/-- A path with names leads on from another by its last name. -/
lemma exists_eq_under (h : p.segments ≠ []) :
    ∃ (q : Path) (name : Text), p = q.under [name] := by
  obtain ⟨names, name, hnames⟩ := (List.eq_nil_or_concat' p.segments).resolve_left h
  refine ⟨⟨p.anchor, names⟩, name, ?_⟩
  unfold Path.under
  rw [← hnames]

/-! ## The text of a path -/

/-- The anchor and the segments with slashes between them; the relative path without segments has
no characters here. -/
def spell (p : Path) : Text :=
  p.anchor.print ++ ['/'].intercalate p.segments

lemma print_eq_spell (h : p.anchor ≠ .relative ∨ p.segments ≠ []) : p.print = p.spell := by
  unfold print
  split
  · rename_i hanchor hsegments
    exact absurd hsegments (h.resolve_left (not_not_intro hanchor))
  · rfl

lemma print_eq (h : p.anchor ≠ .relative) :
    p.print = p.anchor.print ++ ['/'].intercalate p.segments :=
  print_eq_spell (.inl h)

lemma print_under (h : names ≠ []) : (p.under names).print = (p.under names).spell :=
  print_eq_spell (.inr (by simp [Path.under, h]))

lemma intercalate_concat (h : names ≠ []) :
    ['/'].intercalate (names ++ [name]) = ['/'].intercalate names ++ '/' :: name := by
  induction names with
  | nil => exact absurd rfl h
  | cons first rest ih =>
    rcases rest with - | ⟨second, rest⟩
    · show ['/'].intercalate [first, name] = _
      rw [List.intercalate_cons_cons, List.intercalate_singleton, List.intercalate_singleton,
        List.append_assoc]
      rfl
    · have hrest := ih (by simp)
      rw [List.cons_append] at hrest
      rw [List.cons_append, List.cons_append, List.intercalate_cons_cons, hrest,
        List.intercalate_cons_cons, List.append_assoc, List.append_assoc, List.append_assoc]

lemma exists_intercalate_cons (first : Text) (rest : List Text) :
    ∃ tail, ['/'].intercalate (first :: rest) = first ++ tail := by
  rcases rest with - | ⟨second, rest⟩
  · exact ⟨[], by rw [List.intercalate_singleton, List.append_nil]⟩
  · exact ⟨['/'] ++ ['/'].intercalate (second :: rest), by
      rw [List.intercalate_cons_cons, List.append_assoc]⟩

/-- Joined names have no characters but theirs and the slash. -/
lemma mem_intercalate {c : Char} (h : c ∈ ['/'].intercalate names) :
    c = '/' ∨ ∃ name ∈ names, c ∈ name := by
  induction names with
  | nil => cases h
  | cons first rest ih =>
    rcases rest with - | ⟨second, rest⟩
    · rw [List.intercalate_singleton] at h
      exact .inr ⟨first, List.mem_cons_self, h⟩
    · rw [List.intercalate_cons_cons, List.append_assoc, List.mem_append] at h
      rcases h with h | h
      · exact .inr ⟨first, List.mem_cons_self, h⟩
      · rcases List.mem_cons.1 h with h | h
        · exact .inl h
        · rcases ih h with h | ⟨name, hname, hc⟩
          · exact .inl h
          · exact .inr ⟨name, List.mem_cons_of_mem _ hname, hc⟩

lemma eq_slash_of_mem_print {c : Char} (h : c ∈ anchor.print) : c = '/' := by
  rcases anchor with - | - | -
  · cases h
  · exact List.mem_singleton.1 h
  · exact List.eq_of_mem_replicate (n := 2) h

/-- The text of a path has no characters but those of its segments, slashes and dots. -/
lemma mem_print {c : Char} (h : c ∈ p.print) :
    c = '/' ∨ c = '.' ∨ ∃ name ∈ p.segments, c ∈ name := by
  unfold print at h
  split at h
  · exact .inr (.inl (List.mem_singleton.1 h))
  · rcases List.mem_append.1 h with h | h
    · exact .inl (eq_slash_of_mem_print h)
    · exact (mem_intercalate h).imp_right .inr

/-- The text of an anchor is made of slashes and ends in one. -/
lemma anchor_print_eq (h : anchor ≠ .relative) :
    ∃ front : Text, anchor.print = front ++ ['/'] ∧ front.all (· == '/') = true := by
  rcases anchor with - | - | -
  · exact absurd rfl h
  · exact ⟨[], rfl, rfl⟩
  · exact ⟨['/'], rfl, rfl⟩

lemma slash_mem_anchor_print (h : anchor ≠ .relative) : '/' ∈ anchor.print := by
  obtain ⟨front, hfront, -⟩ := anchor_print_eq h
  rw [hfront]
  exact List.mem_append_right _ List.mem_cons_self

/-- The text of a path with one name more at its end. At an anchor no slash is added. -/
lemma spell_under_singleton :
    (p.under [name]).spell
      = if p.segments = [] then p.spell ++ name else p.spell ++ '/' :: name := by
  unfold spell Path.under
  split
  · rename_i hnil
    rw [hnil, List.nil_append, List.intercalate_singleton, List.intercalate_nil, List.append_nil]
  · rename_i hne
    rw [intercalate_concat hne, List.append_assoc]

lemma print_under_singleton (h : p.anchor ≠ .relative) :
    (p.under [name]).print
      = if p.segments = [] then p.print ++ name else p.print ++ '/' :: name := by
  rw [print_under (by simp), spell_under_singleton, print_eq_spell (.inl h)]

lemma IsClean.spell_ne_nil (hp : p.IsClean) (h : p.segments ≠ []) : p.spell ≠ [] := by
  obtain ⟨q, name, rfl⟩ := exists_eq_under h
  have hname : IsName name := hp name (by simp [Path.under])
  rw [spell_under_singleton]
  split
  · simp [hname.ne_nil]
  · simp

/-- The text of a clean path ends in a slash only if it has no names. -/
lemma IsClean.getLast?_spell (hp : p.IsClean) (h : p.segments ≠ []) :
    p.spell.getLast? ≠ some '/' := by
  obtain ⟨q, name, rfl⟩ := exists_eq_under h
  have hname : IsName name := hp name (by simp [Path.under])
  obtain ⟨init, c, hinit⟩ := (List.eq_nil_or_concat' name).resolve_left hname.ne_nil
  have hc : c ≠ '/' := by
    rintro rfl
    exact hname.no_slash (by rw [hinit]; simp)
  have hlast : (q.under [name]).spell.getLast? = some c := by
    rw [spell_under_singleton, hinit]
    split
    · rw [← List.append_assoc, List.getLast?_concat]
    · rw [← List.cons_append, ← List.append_assoc, List.getLast?_concat]
  rw [hlast]
  exact fun heq => hc (Option.some.inj heq)

lemma IsClean.isSuffixOf_slash (hp : p.IsClean) (hanchor : p.anchor ≠ .relative) :
    ['/'].isSuffixOf p.print = decide (p.segments = []) := by
  rw [Bool.eq_iff_iff, List.isSuffixOf_iff_suffix, List.singleton_suffix_iff_getLast?_eq_some,
    decide_eq_true_eq]
  constructor
  · intro hlast
    by_contra hne
    rw [print_eq_spell (.inr hne)] at hlast
    exact hp.getLast?_spell hne hlast
  · intro hnil
    obtain ⟨front, hfront, -⟩ := anchor_print_eq hanchor
    rw [print_eq hanchor, hnil, List.intercalate_nil, List.append_nil, hfront]
    exact List.getLast?_concat

lemma print_ne_nil (hanchor : p.anchor ≠ .relative) : p.print ≠ [] := by
  obtain ⟨front, hfront, -⟩ := anchor_print_eq hanchor
  rw [print_eq hanchor, hfront]
  simp

/-! ## Joining -/

lemma joinText_nil (text : Text) : joinText [] text = text := by
  unfold joinText
  split
  · rfl
  · rfl

lemma joinAll_cons (first : Text) (others : List Text) :
    joinAll (first :: others) = joinTexts first others := by
  show joinTexts (joinText [] first) others = _
  rw [joinText_nil]

/-- Joining a name adds it to the path. -/
lemma IsClean.joinText_spell (hp : p.IsClean) (h : IsName name) :
    joinText p.spell name = (p.under [name]).spell := by
  have hanchored : ['/'].isPrefixOf name = false := by
    rw [← Bool.not_eq_true, List.isPrefixOf_iff_prefix]
    rintro ⟨rest, rfl⟩
    exact h.no_slash (by simp)
  have hends : (p.spell.isEmpty || ['/'].isSuffixOf p.spell) = decide (p.segments = []) := by
    rw [Bool.eq_iff_iff, Bool.or_eq_true, List.isEmpty_iff, List.isSuffixOf_iff_suffix,
      List.singleton_suffix_iff_getLast?_eq_some, decide_eq_true_eq]
    constructor
    · intro hends
      by_contra hne
      exact hends.elim (hp.spell_ne_nil hne) (hp.getLast?_spell hne)
    · intro hnil
      unfold spell
      rw [hnil, List.intercalate_nil, List.append_nil]
      by_cases hanchor : p.anchor = .relative
      · rw [hanchor]
        exact .inl rfl
      · obtain ⟨front, hfront, -⟩ := anchor_print_eq hanchor
        rw [hfront]
        exact .inr List.getLast?_concat
  unfold Path.joinText
  rw [hanchored, hends, spell_under_singleton]
  simp

lemma IsClean.joinText (hp : p.IsClean) (hanchor : p.anchor ≠ .relative) (h : IsName name) :
    joinText p.print name = (p.under [name]).print := by
  rw [print_eq_spell (.inl hanchor), hp.joinText_spell h, print_under (List.cons_ne_nil _ _)]

/-- Joining names adds them to the path in their order. -/
lemma IsClean.joinTexts (hp : p.IsClean) (hanchor : p.anchor ≠ .relative)
    (h : ∀ name ∈ names, IsName name) : joinTexts p.print names = (p.under names).print := by
  induction names generalizing p with
  | nil =>
    rw [under_nil]
    rfl
  | cons name rest ih =>
    have hname : IsName name := h name List.mem_cons_self
    have hrest : ∀ name ∈ rest, IsName name := fun name hmem =>
      h name (List.mem_cons_of_mem _ hmem)
    have hunder : (p.under [name]).anchor ≠ .relative := hanchor
    show Path.joinTexts (Path.joinText p.print name) rest = _
    rw [hp.joinText hanchor hname, ih (hp.child hname) hunder hrest, under_under]
    rfl

/-! ## Splitting -/

lemma splitLast_append (front : Text) (h : '/' ∉ name) :
    splitLast (front ++ '/' :: name)
      = (if (front ++ ['/']).all (· == '/') then front ++ ['/']
          else Text.trimEnd (front ++ ['/']) '/', name) := by
  have htake : (front ++ '/' :: name).take ((front ++ '/' :: name).length - name.length)
      = front ++ ['/'] := by
    rw [List.append_cons, List.length_append, Nat.add_sub_cancel]
    exact List.take_left
  unfold Path.splitLast
  dsimp only
  rw [Text.takeWhile_reverse_ne h, htake]

/-- Nothing precedes the last slash of a text without slashes. -/
lemma splitLast_of_no_slash (h : '/' ∉ name) : splitLast name = ([], name) := by
  have hreverse : '/' ∉ name.reverse := fun hc => h (List.mem_reverse.1 hc)
  unfold Path.splitLast
  dsimp only
  rw [List.takeWhile_eq_self_iff.2 (Text.forall_ne_of_notMem hreverse), List.reverse_reverse,
    Nat.sub_self, List.take_zero]
  rfl

/-- Splitting takes the last name off the path. -/
lemma IsClean.splitLast_spell (hp : p.IsClean) (h : IsName name) :
    splitLast (p.under [name]).spell = (p.spell, name) := by
  rw [spell_under_singleton]
  by_cases hnil : p.segments = []
  · have hspell : p.spell = p.anchor.print := by
      unfold spell
      rw [hnil, List.intercalate_nil, List.append_nil]
    rw [if_pos hnil, hspell]
    by_cases hanchor : p.anchor = .relative
    · rw [hanchor]
      exact splitLast_of_no_slash h.no_slash
    · -- the slashes of an anchor are all that precedes the name, and they are kept
      obtain ⟨front, hfront, hall⟩ := anchor_print_eq hanchor
      have hslashes : (front ++ ['/']).all (· == '/') = true := by
        rw [List.all_append, hall]
        rfl
      rw [hfront, List.append_assoc, List.singleton_append, splitLast_append _ h.no_slash,
        if_pos hslashes]
  · -- the one slash that was put before the name is trimmed off again
    have hlast := hp.getLast?_spell hnil
    have hslashes : ¬(p.spell ++ ['/']).all (· == '/') = true := by
      intro hall
      obtain ⟨init, c, hinit⟩ :=
        (List.eq_nil_or_concat' p.spell).resolve_left (hp.spell_ne_nil hnil)
      rw [hinit, List.getLast?_concat] at hlast
      have hc := List.all_eq_true.1 hall c (by rw [hinit]; simp)
      exact hlast (by rw [eq_of_beq hc])
    rw [if_neg hnil, splitLast_append _ h.no_slash, if_neg hslashes, Text.trimEnd_concat hlast]

/-- An anchor is its own parent, and so is the empty text. -/
lemma parentText_spell_of_nil (h : p.segments = []) : parentText p.spell = p.spell := by
  unfold spell
  rw [h, List.intercalate_nil, List.append_nil]
  rcases p.anchor with - | - | -
  · rfl
  · rfl
  · rfl

/-- The parent of a path with names is the path without the last of them. -/
lemma IsClean.parentText_spell (hp : p.IsClean) (h : IsName name) :
    parentText (p.under [name]).spell = p.spell := by
  unfold parentText
  rw [hp.splitLast_spell h]

lemma IsClean.parentText_print (hp : p.IsClean) (hanchor : p.anchor ≠ .relative)
    (h : IsName name) : parentText (p.under [name]).print = p.print := by
  rw [print_under (List.cons_ne_nil _ _), hp.parentText_spell h, print_eq_spell (.inl hanchor)]

/-! ## Reading -/

lemma anchor_read_append (h : anchor ≠ .relative) (htext : text.head? ≠ some '/') :
    Anchor.read (anchor.print ++ text) = anchor := by
  rcases text with - | ⟨c, rest⟩
  · rcases anchor with - | - | -
    · exact absurd rfl h
    · rfl
    · rfl
  · have hc : c ≠ '/' := fun heq => htext (by rw [heq]; rfl)
    rcases anchor with - | - | -
    · exact absurd rfl h
    · simp [Anchor.print, Anchor.read, hc]
    · simp [Anchor.print, Anchor.read, hc]

lemma anchor_read_of_no_slash (h : text.head? ≠ some '/') : Anchor.read text = .relative := by
  unfold Anchor.read
  split
  · exact absurd rfl h
  · exact absurd rfl h
  · exact absurd rfl h
  · rfl

/-- A slash parts the segments before it from those behind it. -/
lemma segments_read_append_slash (a b : Text) :
    (read (a ++ '/' :: b)).segments = (read a).segments ++ (read b).segments := by
  show ((a ++ '/' :: b).splitOn '/').filter isSegment = _
  rw [List.splitOn_append_cons_self, List.filter_append]
  rfl

/-- The slashes of an anchor add no segments. -/
lemma segments_anchor_append (anchor : Anchor) :
    (read (anchor.print ++ text)).segments = (read text).segments := by
  have hslash : ∀ text : Text, (read ('/' :: text)).segments = (read text).segments :=
    segments_read_append_slash []
  rcases anchor with - | - | -
  · rfl
  · exact hslash text
  · exact (hslash ('/' :: text)).trans (hslash text)

/-- The names of a clean path do not begin with a slash, which would make another anchor. -/
lemma IsClean.head?_intercalate (hp : p.IsClean) :
    (['/'].intercalate p.segments).head? ≠ some '/' := by
  rcases hnames : p.segments with - | ⟨name, rest⟩
  · simp
  · have hname : IsName name := hp name (by rw [hnames]; exact List.mem_cons_self)
    obtain ⟨c, cs, rfl⟩ := List.exists_cons_of_ne_nil hname.ne_nil
    obtain ⟨tail, htail⟩ := exists_intercalate_cons (c :: cs) rest
    rw [htail]
    intro hslash
    cases hslash
    exact hname.no_slash List.mem_cons_self

/-- A clean path is read back from its text. -/
lemma IsClean.read_print (hp : p.IsClean) : read p.print = p := by
  by_cases hempty : p.anchor = .relative ∧ p.segments = []
  · obtain ⟨anchor, segments⟩ := p
    obtain ⟨rfl, rfl⟩ := hempty
    rfl
  · have hhead := hp.head?_intercalate
    have hanchor : Anchor.read (p.anchor.print ++ ['/'].intercalate p.segments) = p.anchor := by
      by_cases hrelative : p.anchor = .relative
      · rw [hrelative]
        exact anchor_read_of_no_slash hhead
      · exact anchor_read_append hrelative hhead
    have hsegments : (read (['/'].intercalate p.segments)).segments = p.segments := by
      by_cases hnil : p.segments = []
      · rw [hnil]
        rfl
      · show ((['/'].intercalate p.segments).splitOn '/').filter isSegment = p.segments
        rw [List.splitOn_intercalate '/' (fun name h => (hp name h).no_slash) hnil]
        exact List.filter_eq_self.2 fun name h => (hp name h).isSegment
    rw [print_eq_spell (not_and_or.1 hempty)]
    exact congrArg₂ Path.mk hanchor ((segments_anchor_append p.anchor).trans hsegments)

/-- A name is a relative path of one segment. -/
lemma IsName.read (h : IsName name) : read name = ⟨.relative, [name]⟩ := by
  have hclean : IsClean ⟨.relative, [name]⟩ := List.forall_mem_singleton.2 h
  have hprint : print ⟨.relative, [name]⟩ = name := by
    rw [print_eq_spell (.inr (List.cons_ne_nil _ _)), spell, List.intercalate_singleton]
    rfl
  have := hclean.read_print
  rwa [hprint] at this

/-- An anchored path starts anew. -/
lemma append_of_anchored {q : Path} (p : Path) (h : q.anchor ≠ .relative) : p.append q = q := by
  unfold append
  split
  · rename_i hrelative
    exact absurd hrelative h
  · rfl

/-- Names that come after an anchored clean path lead on from it. -/
lemma IsClean.ofTexts (hp : p.IsClean) (hanchor : p.anchor ≠ .relative)
    (h : ∀ name ∈ names, IsName name) : ofTexts (p.print :: names) = p.under names := by
  have hnames : ∀ q : Path, names.foldl (fun q text => q.append (Path.read text)) q
      = q.under names := by
    induction names with
    | nil => exact fun q => under_nil.symm
    | cons name rest ih =>
      intro q
      have hname : q.append (Path.read name) = q.under [name] := by
        rw [(h name List.mem_cons_self).read]
        rfl
      rw [List.foldl_cons, hname, ih fun other hother => h other (List.mem_cons_of_mem _ hother),
        under_under]
      rfl
  unfold Path.ofTexts
  rw [List.foldl_cons, hp.read_print, append_of_anchored _ hanchor, hnames]

/-- The pieces between separators have the characters of the text but for the separator. -/
lemma mem_of_mem_splitOn {separator c : Char} (h : name ∈ text.splitOn separator) (hc : c ∈ name) :
    c ∈ text ∧ c ≠ separator := by
  induction text generalizing name with
  | nil =>
    rw [List.mem_singleton.1 h] at hc
    cases hc
  | cons d rest ih =>
    rw [List.splitOn_cons_eq_if_modifyHead] at h
    split at h
    · rcases List.mem_cons.1 h with rfl | h
      · cases hc
      · exact ⟨List.mem_cons_of_mem _ (ih h hc).1, (ih h hc).2⟩
    · -- a character other than the separator goes in front of the first piece
      rename_i hd
      rcases hpieces : rest.splitOn separator with - | ⟨first, others⟩
      · exact absurd hpieces (List.splitOn_ne_nil _ _)
      · rw [hpieces] at h ih
        rcases List.mem_cons.1 h with rfl | h
        · rcases List.mem_cons.1 hc with rfl | hc
          · exact ⟨List.mem_cons_self, fun heq => hd (beq_iff_eq.2 heq)⟩
          · have := ih List.mem_cons_self hc
            exact ⟨List.mem_cons_of_mem _ this.1, this.2⟩
        · have := ih (List.mem_cons_of_mem _ h) hc
          exact ⟨List.mem_cons_of_mem _ this.1, this.2⟩

/-- What is read from a text is clean. -/
lemma isClean_read (text : Text) : (read text).IsClean := by
  intro name hname
  obtain ⟨hpiece, hsegment⟩ := List.mem_filter.1 hname
  simp only [isSegment, Bool.not_eq_true', Bool.or_eq_false_iff, beq_eq_false_iff_ne] at hsegment
  exact ⟨hsegment.1, fun hc => (mem_of_mem_splitOn hpiece hc).2 rfl, hsegment.2⟩

/-! ## Normal form -/

/-- The segments that lead up do not count below an anchor; elsewhere they stay. What holds of them,
where they stay, and of the other segments holds of all that remain. -/
lemma forall_mem_foldl_push {P : Text → Prop} (hup : anchor = .relative → P up)
    (hnames : ∀ name ∈ names, name ≠ up → P name) {stack : List Text}
    (hstack : ∀ name ∈ stack, P name) : ∀ name ∈ names.foldl (push anchor) stack, P name := by
  induction names generalizing stack with
  | nil => exact hstack
  | cons first rest ih =>
    refine ih (fun name h => hnames name (List.mem_cons_of_mem _ h)) ?_
    unfold push
    split
    · -- a segment that leads up is lost at the anchor, and else cancels one of the stack
      rcases stack with - | ⟨top, below⟩
      · dsimp only
        split
        · rename_i hrelative
          exact List.forall_mem_singleton.2 (hup hrelative)
        · exact hstack
      · dsimp only
        split
        · rename_i htop
          intro name hname
          rcases List.mem_cons.1 hname with rfl | hname
          · exact hstack _ (by rw [htop]; exact List.mem_cons_self)
          · exact hstack name hname
        · exact fun name hname => hstack name (List.mem_cons_of_mem _ hname)
    · rename_i hfirst
      intro name hname
      rcases List.mem_cons.1 hname with rfl | hname
      · exact hnames name List.mem_cons_self hfirst
      · exact hstack name hname

lemma IsClean.normalize (hp : p.IsClean) : p.normalize.IsClean := by
  intro name hname
  have hup : IsName up := ⟨by decide, by decide, by decide⟩
  exact forall_mem_foldl_push (fun _ => hup) (fun name h _ => hp name h)
    (fun name h => by cases h) name (List.mem_reverse.1 hname)

/-- The normal form of a text is the text of a clean path. -/
lemma isClean_normalize_read (text : Text) : (read text).normalize.IsClean :=
  (isClean_read text).normalize

lemma read_normalizeText (text : Text) : read (normalizeText text) = (read text).normalize :=
  (isClean_normalize_read text).read_print

/-- Segments none of which leads up pile up. -/
lemma foldl_push (anchor : Anchor) (h : up ∉ names) (stack : List Text) :
    names.foldl (push anchor) stack = names.reverse ++ stack := by
  induction names generalizing stack with
  | nil => rfl
  | cons name rest ih =>
    have hname : name ≠ up := fun heq => h (by rw [heq]; exact List.mem_cons_self)
    have hrest : up ∉ rest := fun hmem => h (List.mem_cons_of_mem _ hmem)
    rw [List.foldl_cons, ih hrest, push.eq_def, if_neg hname, List.reverse_cons, List.append_assoc]
    rfl

/-- A path none of whose segments leads up is in normal form. -/
lemma normalize_of_no_up (h : up ∉ p.segments) : p.normalize = p := by
  unfold Path.normalize
  rw [foldl_push p.anchor h, List.append_nil, List.reverse_reverse]

/-- Below an anchor, no segment of a path in normal form leads up. -/
lemma up_notMem_normalize (h : p.anchor ≠ .relative) : up ∉ p.normalize.segments := by
  intro hup
  exact forall_mem_foldl_push (P := (· ≠ up)) (fun hrelative => absurd hrelative h)
    (fun name _ hname => hname) (fun name hname => by cases hname) up (List.mem_reverse.1 hup) rfl

/-! ## Absolute paths -/

/-- Whether a path is anchored, clean and in normal form. -/
structure IsNormal (p : Path) : Prop where
  anchored : p.anchor ≠ .relative
  clean : p.IsClean
  no_up : up ∉ p.segments

lemma IsNormal.under (hp : p.IsNormal) (hnames : ∀ name ∈ names, IsName name ∧ name ≠ up) :
    (p.under names).IsNormal := by
  refine ⟨hp.anchored, hp.clean.under fun name h => (hnames name h).1, fun h => ?_⟩
  rcases List.mem_append.1 h with h | h
  · exact hp.no_up h
  · exact (hnames up h).2 rfl

lemma IsNormal.normalizeText (hp : p.IsNormal) : normalizeText p.print = p.print := by
  unfold Path.normalizeText
  rw [hp.clean.read_print, normalize_of_no_up hp.no_up]

/-- Whether a text is an absolute path in normal form. -/
structure IsAbsolute (text : Text) : Prop where
  absolute : ['/'].isPrefixOf text = true
  normal : Path.normalizeText text = text

lemma anchor_read_of_slash (h : ['/'].isPrefixOf text = true) : Anchor.read text ≠ .relative := by
  obtain ⟨rest, rfl⟩ := List.isPrefixOf_iff_prefix.1 h
  rcases rest with - | ⟨c, rest⟩
  · decide
  · show Anchor.read ('/' :: c :: rest) ≠ .relative
    unfold Anchor.read
    split
    · decide
    · decide
    · decide
    · rename_i hslash
      exact absurd rfl (hslash _)

lemma IsAbsolute.exists_normal (h : IsAbsolute text) :
    ∃ p : Path, p.IsNormal ∧ p.print = text := by
  have hanchor : (Path.read text).anchor ≠ .relative := anchor_read_of_slash h.absolute
  exact ⟨(Path.read text).normalize,
    ⟨hanchor, isClean_normalize_read text, up_notMem_normalize hanchor⟩, h.normal⟩

end Path
end YiiNavigator
