import Mathlib.Data.List.Induction
import Mathlib.Logic.Function.Iterate
import YiiNavigator.Proofs.FileSystem.Growth
import YiiNavigator.Proofs.Path.Clean

/-!
# What the history of a store tells

A store is changed by adding files and directories. Going up from a new directory stops at the first
one that is there already, which adds all of the way up because the directories of a store are
closed under going up. So the texts and the paths of a store can be told from the additions alone:
the last text under a path counts, and for what exists neither the order nor repetitions matter.
-/

namespace YiiNavigator

/-! ## Going up -/

namespace Path

variable {p : Path} {anchor : Anchor} {d path : Text} {names : List Text}

/-- Whether a text is a path or one of the directories above it. Going up from a root stays there,
and the empty text, which is above a relative path, does not count. -/
def IsAbove (d path : Text) : Prop :=
  d ≠ [] ∧ ∃ n : ℕ, parentText^[n] path = d

lemma isAbove_iff : IsAbove d path ↔ d ≠ [] ∧ d = path ∨ IsAbove d (parentText path) := by
  constructor
  · rintro ⟨hd, n, hn⟩
    rcases n with - | n
    · exact .inl ⟨hd, hn.symm⟩
    · exact .inr ⟨hd, n, by rwa [Function.iterate_succ_apply] at hn⟩
  · rintro (⟨hd, rfl⟩ | ⟨hd, n, hn⟩)
    · exact ⟨hd, 0, rfl⟩
    · exact ⟨hd, n + 1, by rwa [Function.iterate_succ_apply]⟩

lemma isAbove_of_parentText_eq (h : parentText path = path) :
    IsAbove d path ↔ d ≠ [] ∧ d = path := by
  constructor
  · rintro ⟨hd, n, hn⟩
    rw [Function.iterate_fixed h] at hn
    exact ⟨hd, hn.symm⟩
  · exact fun h => isAbove_iff.2 (.inl h)

/-- What is above a path with names is the path itself and what is above it without the last of
them. -/
lemma IsClean.isAbove_under (hp : p.IsClean) {name : Text} (h : IsName name) :
    IsAbove d (p.under [name]).spell ↔ d = (p.under [name]).spell ∨ IsAbove d p.spell := by
  have hne : (p.under [name]).spell ≠ [] :=
    (hp.child h).spell_ne_nil (List.append_ne_nil_of_right_ne_nil _ (List.cons_ne_nil _ _))
  rw [isAbove_iff, hp.parentText_spell h]
  constructor
  · rintro (⟨-, hd⟩ | habove)
    · exact .inl hd
    · exact .inr habove
  · rintro (rfl | habove)
    · exact .inl ⟨hne, rfl⟩
    · exact .inr habove

/-- An anchored path is above those that lead on from it. -/
lemma IsClean.isAbove_under_names (hp : p.IsClean) (hanchor : p.anchor ≠ .relative)
    (h : ∀ name ∈ names, IsName name) : IsAbove p.print (p.under names).print := by
  induction names using List.reverseRecOn with
  | nil =>
    rw [under_nil]
    exact ⟨print_ne_nil hanchor, 0, rfl⟩
  | append_singleton front name ih =>
    obtain ⟨hfront, hname⟩ := List.forall_mem_append.1 h
    rw [← under_under, print_under (List.cons_ne_nil _ _),
      (hp.under hfront).isAbove_under (List.forall_mem_singleton.1 hname)]
    rw [print_eq_spell (p := p.under front) (.inl hanchor)] at ih
    exact .inr (ih hfront)

/-- What is above an anchored path begins with some of its names. -/
lemma IsClean.exists_of_isAbove (hp : p.IsClean) (hanchor : p.anchor ≠ .relative)
    (h : IsAbove d p.print) :
    ∃ front more, p.segments = front ++ more ∧ d = print ⟨p.anchor, front⟩ := by
  obtain ⟨anchor, names⟩ := p
  induction names using List.reverseRecOn with
  | nil =>
    rw [print_eq_spell (.inl hanchor), isAbove_of_parentText_eq (parentText_spell_of_nil rfl)] at h
    exact ⟨[], [], rfl, by rw [h.2, print_eq_spell (.inl hanchor)]⟩
  | append_singleton names name ih =>
    have hall : ∀ other ∈ names ++ [name], IsName other := hp
    obtain ⟨hnames, hname⟩ := List.forall_mem_append.1 hall
    have hunder : (⟨anchor, names ++ [name]⟩ : Path) = Path.under ⟨anchor, names⟩ [name] := rfl
    rw [hunder, print_under (List.cons_ne_nil _ _),
      IsClean.isAbove_under (p := ⟨anchor, names⟩) hnames (List.forall_mem_singleton.1 hname)] at h
    rcases h with rfl | h
    · exact ⟨names ++ [name], [], (List.append_nil _).symm, (print_eq_spell (.inl hanchor)).symm⟩
    · have hspell : print ⟨anchor, names⟩ = spell ⟨anchor, names⟩ := print_eq_spell (.inl hanchor)
      rw [← hspell] at h
      obtain ⟨front, more, hsplit, hd⟩ := ih hnames hanchor h
      refine ⟨front, more ++ [name], ?_, hd⟩
      rw [← List.append_assoc]
      exact congrArg (· ++ [name]) hsplit

/-- The directory of a path in normal form, in normal form. -/
lemma IsNormal.normalizeText_parentText {name : Text} (hp : p.IsNormal) (h : IsName name) :
    Path.normalizeText (parentText (p.under [name]).print) = p.print := by
  rw [print_under (List.cons_ne_nil _ _), hp.clean.parentText_spell h,
    ← print_eq_spell (.inl hp.anchored), hp.normalizeText]

end Path

open YiiNavigator.Path

namespace Store

variable {d path : Text} {anchor : Anchor} {names : List Text} {s : Store}

/-- The way up from a path visits what is above it. -/
lemma mem_chainFrom (h : ∀ name ∈ names, IsName name) :
    d ∈ chainFrom anchor names ↔ IsAbove d (spell ⟨anchor, names.reverse⟩) := by
  -- the names are given with the last one first, so that one step up takes off the head
  induction names with
  | nil =>
    rw [isAbove_of_parentText_eq (parentText_spell_of_nil rfl)]
    have hspell : spell ⟨anchor, [].reverse⟩ = anchor.print := by
      unfold spell
      rw [List.reverse_nil, List.intercalate_nil, List.append_nil]
    rw [hspell, chainFrom]
    by_cases hanchor : anchor = .relative
    · rw [if_pos hanchor, hanchor]
      constructor
      · intro h
        cases h
      · exact fun h => absurd h.2 h.1
    · obtain ⟨front, hfront, -⟩ := anchor_print_eq hanchor
      rw [if_neg hanchor, List.mem_singleton, hfront]
      exact ⟨fun h => ⟨by rw [h]; simp, h⟩, fun h => h.2⟩
  | cons name above ih =>
    have habove : ∀ name ∈ above, IsName name := fun other hother =>
      h other (List.mem_cons_of_mem _ hother)
    have hclean : IsClean ⟨anchor, above.reverse⟩ := fun other hother =>
      habove other (List.mem_reverse.1 hother)
    have hunder : (⟨anchor, (name :: above).reverse⟩ : Path)
        = under ⟨anchor, above.reverse⟩ [name] := by
      unfold Path.under
      rw [List.reverse_cons]
    rw [chainFrom, List.mem_cons, ih habove, hunder, print_under (List.cons_ne_nil _ _),
      hclean.isAbove_under (h name List.mem_cons_self)]

lemma mem_chain {p : Path} (hp : p.IsClean) : d ∈ chain p ↔ IsAbove d p.print := by
  unfold chain
  split
  · rename_i hp
    rw [hp, List.mem_singleton, isAbove_iff]
    have hparent : parentText (print ⟨.relative, []⟩) = [] := rfl
    have hnil : ¬IsAbove d [] := by
      rw [isAbove_of_parentText_eq rfl]
      exact fun h => h.1 h.2
    rw [hparent, or_iff_left hnil]
    constructor
    · rintro rfl
      exact ⟨by decide, rfl⟩
    · exact fun h => h.2
  · rename_i hne
    have hspell : p.anchor ≠ .relative ∨ p.segments ≠ [] := by
      by_contra hnone
      rw [not_or, not_not, not_not] at hnone
      obtain ⟨anchor, segments⟩ := p
      obtain ⟨rfl, rfl⟩ := hnone
      exact hne rfl
    rw [mem_chainFrom fun name h => hp name (List.mem_reverse.1 h), List.reverse_reverse,
      print_eq_spell hspell]

/-! ## The invariant -/

/-- Whether the directory above every directory of a store is one of its directories, unless it is
the empty text. -/
def IsClosed (s : Store) : Prop :=
  ∀ d ∈ s.directories, parentText d ≠ [] → parentText d ∈ s.directories

lemma isClosed_empty : empty.IsClosed := by
  intro d hd
  cases hd

/-- A store that has a directory has all those above it. -/
lemma IsClosed.mem_of_isAbove (hs : s.IsClosed) (hpath : path ∈ s.directories)
    (h : IsAbove d path) : d ∈ s.directories := by
  obtain ⟨hd, n, hn⟩ := h
  induction n generalizing path with
  | zero => exact hn ▸ hpath
  | succ n ih =>
    rw [Function.iterate_succ_apply] at hn
    by_cases hparent : parentText path = []
    · -- nothing is above the empty text but itself
      rw [hparent, Function.iterate_fixed rfl] at hn
      exact absurd hn.symm hd
    · exact ih (hs path hpath hparent) hn

/-- Going up stops before a directory that is there. -/
lemma takeWhile_cons_of_mem {rest : List Text} (h : d ∈ s.directories) :
    (d :: rest).takeWhile (fun d => !s.directories.elem d) = [] :=
  List.takeWhile_cons_of_neg (by simp [h])

/-- Going up goes on from a directory that is missing. -/
lemma takeWhile_cons_of_notMem {rest : List Text} (h : d ∉ s.directories) :
    (d :: rest).takeWhile (fun d => !s.directories.elem d)
      = d :: rest.takeWhile fun d => !s.directories.elem d :=
  List.takeWhile_cons_of_pos (by simp [h])

/-- Going up as far as directories are missing adds all of the way up. -/
lemma IsClosed.mem_takeWhile_chainFrom (hs : s.IsClosed) (h : ∀ name ∈ names, IsName name) :
    d ∈ s.directories ++ (chainFrom anchor names).takeWhile (fun d => !s.directories.elem d)
      ↔ d ∈ s.directories ∨ d ∈ chainFrom anchor names := by
  rw [List.mem_append]
  induction names with
  | nil =>
    -- at the end of the way there is at most the text of the anchor
    unfold chainFrom
    split
    · rfl
    · by_cases hmem : anchor.print ∈ s.directories
      · rw [takeWhile_cons_of_mem hmem]
        simp only [List.not_mem_nil, or_false, List.mem_singleton]
        exact ⟨.inl, fun hd => hd.elim id fun heq => heq ▸ hmem⟩
      · rw [takeWhile_cons_of_notMem hmem]
        rfl
  | cons name above ih =>
    have habove := ih fun other hother => h other (List.mem_cons_of_mem _ hother)
    have hfirst : d ∈ chainFrom anchor (name :: above)
        ↔ IsAbove d (spell ⟨anchor, (name :: above).reverse⟩) := mem_chainFrom h
    rw [chainFrom] at hfirst ⊢
    by_cases hmem : print ⟨anchor, (name :: above).reverse⟩ ∈ s.directories
    · -- going up stops here, but what is further up is there too
      rw [takeWhile_cons_of_mem hmem]
      constructor
      · rintro (hd | hd)
        · exact .inl hd
        · cases hd
      · rintro (hd | hd)
        · exact .inl hd
        · refine .inl (hs.mem_of_isAbove hmem ?_)
          rw [print_eq_spell (.inr (by simp))]
          exact hfirst.1 hd
    · rw [takeWhile_cons_of_notMem hmem, List.mem_cons, List.mem_cons, or_left_comm, habove,
        or_left_comm]

/-- What the directories of a store are after one has been added. -/
lemma IsClosed.mem_addDirectory (hs : s.IsClosed) :
    d ∈ (s.addDirectory path).directories
      ↔ d ∈ s.directories ∨ IsAbove d (normalizeText path) := by
  have hclean := isClean_normalize_read path
  unfold normalizeText
  rw [← mem_chain hclean]
  unfold addDirectory chain
  split
  · by_cases hmem : (read path).normalize.print ∈ s.directories
    · simp [hmem]
      rintro rfl
      exact hmem
    · simp [hmem]
  · exact hs.mem_takeWhile_chainFrom fun name h => hclean name (List.mem_reverse.1 h)

lemma IsClosed.addDirectory (hs : s.IsClosed) (path : Text) : (s.addDirectory path).IsClosed := by
  intro d hd hparent
  rw [hs.mem_addDirectory] at hd ⊢
  rcases hd with hd | ⟨hd, n, hn⟩
  · exact .inl (hs d hd hparent)
  · -- the parent is one step further on the same way up
    exact .inr ⟨hparent, n + 1, by rw [Function.iterate_succ_apply', hn]⟩

/-- Adding a file adds its directory, to the directories that there were. -/
lemma directories_addFile (s : Store) (path content : Text) :
    (s.addFile path content).directories
      = (s.addDirectory (parentText (normalizeText path))).directories :=
  rfl

lemma IsClosed.change (hs : s.IsClosed) (c : Change) : (s.change c).IsClosed := by
  rcases c with ⟨path, content⟩ | path
  · intro d
    rw [show s.change (.file path content) = s.addFile path content from rfl,
      directories_addFile]
    exact hs.addDirectory _ d
  · exact hs.addDirectory path

/-! ## Texts -/

lemma textAt?_addDirectory (s : Store) (directory path : Text) :
    (s.addDirectory directory).textAt? path = s.textAt? path :=
  rfl

/-- A file that is added has its text, and the other files keep theirs. -/
lemma textAt?_addFile (s : Store) (file content path : Text) :
    (s.addFile file content).textAt? path
      = if normalizeText file = normalizeText path then some content else s.textAt? path := by
  show List.lookup (normalizeText path) (s.files.filter (fun f => !(f.1 == normalizeText file))
    ++ [(normalizeText file, content)]) = _
  rw [List.lookup_append]
  by_cases h : normalizeText file = normalizeText path
  · -- the text that was under the path before is taken out
    have hnone : List.lookup (normalizeText path)
        (s.files.filter fun f => !(f.1 == normalizeText file)) = none := by
      rw [List.lookup_eq_none_iff]
      intro f hf
      have hkey : f.1 ≠ normalizeText file := by simpa using (List.mem_filter.1 hf).2
      exact bne_iff_ne.2 fun heq => hkey (heq.symm.trans h.symm)
    rw [hnone, if_pos h, h, Option.none_or, List.lookup_cons_self]
  · have hother : (normalizeText path == normalizeText file) = false :=
      beq_eq_false_iff_ne.2 (Ne.symm h)
    have hkept : List.lookup (normalizeText path)
        (s.files.filter fun f => !(f.1 == normalizeText file))
        = s.files.lookup (normalizeText path) := by
      induction s.files with
      | nil => rfl
      | cons f files ih =>
        by_cases hf : f.1 = normalizeText file
        · rw [List.filter_cons_of_neg (by simp [hf]), ih, List.lookup_cons, hf, hother]
        · rw [List.filter_cons_of_pos (by simp [hf]), List.lookup_cons, List.lookup_cons, ih]
    rw [hkept, if_neg h, List.lookup_cons, hother]
    exact Option.or_none

/-! ## What one addition does -/

/-- The text that an addition puts under a path, if it puts one there. -/
def Change.textFor? (path : Text) : Change → Option Text
  | .file added content => if normalizeText added = normalizeText path then some content else none
  | .directory _ => none

/-- Whether a path in normal form exists because of an addition: as its file, or as a directory on
the way up from the directory that it adds. -/
def Change.Brings (key : Text) : Change → Prop
  | .file added _ => key = normalizeText added
      ∨ IsAbove key (normalizeText (parentText (normalizeText added)))
  | .directory added => IsAbove key (normalizeText added)

lemma textAt?_change (s : Store) (c : Change) (path : Text) :
    (s.change c).textAt? path = (c.textFor? path).or (s.textAt? path) := by
  rcases c with ⟨file, content⟩ | directory
  · show (s.addFile file content).textAt? path = _
    rw [textAt?_addFile, Change.textFor?]
    split
    · rfl
    · rfl
  · exact textAt?_addDirectory s directory path

lemma IsClosed.has_change (hs : s.IsClosed) (c : Change) :
    (s.change c).has path = true ↔ s.has path = true ∨ c.Brings (normalizeText path) := by
  have hhas : ∀ s : Store, s.has path = true
      ↔ (s.textAt? path).isSome = true ∨ normalizeText path ∈ s.directories := by
    intro s
    rw [has, Bool.or_eq_true, List.elem_iff]
  rw [hhas, hhas, textAt?_change, Option.isSome_or, Bool.or_eq_true]
  rcases c with ⟨file, content⟩ | directory
  · have hfile : ((Change.file file content).textFor? path).isSome = true
        ↔ normalizeText path = normalizeText file := by
      rw [Change.textFor?, Option.isSome_ite, eq_comm]
    rw [hfile, show s.change (.file file content) = s.addFile file content from rfl,
      directories_addFile, hs.mem_addDirectory, Change.Brings]
    tauto
  · rw [show s.change (.directory directory) = s.addDirectory directory from rfl,
      hs.mem_addDirectory, Change.textFor?, Change.Brings, Option.isSome_none]
    simp only [Bool.false_eq_true, false_or, or_assoc]

/-! ## What all additions do -/

lemma changeAll_concat (s : Store) (history : List Change) (c : Change) :
    s.changeAll (history ++ [c]) = (s.changeAll history).change c :=
  List.foldl_concat ..

/-- Whether a text is the one that the last of the additions under a path has put there. -/
def IsLastText (history : List Change) (path content : Text) : Prop :=
  ∃ before c after, history = before ++ c :: after ∧ c.textFor? path = some content
    ∧ ∀ later ∈ after, later.textFor? path = none

lemma isLastText_concat {history : List Change} {c : Change} {content : Text} :
    IsLastText (history ++ [c]) path content
      ↔ c.textFor? path = some content
        ∨ c.textFor? path = none ∧ IsLastText history path content := by
  constructor
  · rintro ⟨before, last, after, hsplit, htext, hafter⟩
    -- either the new addition is the one that counts, or it is the latest of those after that one
    rcases List.eq_nil_or_concat' after with rfl | ⟨after, latest, rfl⟩
    · obtain ⟨-, hlast⟩ := List.append_inj' hsplit rfl
      cases hlast
      exact .inl htext
    · rw [← List.cons_append, ← List.append_assoc] at hsplit
      obtain ⟨rfl, hlatest⟩ := List.append_inj' hsplit rfl
      cases hlatest
      refine .inr ⟨hafter c (by simp), before, last, after, rfl, htext, fun later hlater => ?_⟩
      exact hafter later (List.mem_append_left _ hlater)
  · rintro (htext | ⟨hnone, before, last, after, rfl, htext, hafter⟩)
    · exact ⟨history, c, [], rfl, htext, fun later h => by cases h⟩
    · refine ⟨before, last, after ++ [c], by simp, htext, ?_⟩
      intro later hlater
      rcases List.mem_append.1 hlater with h | h
      · exact hafter later h
      · rw [List.mem_singleton.1 h, hnone]

lemma textAt?_changeAll_empty {history : List Change} {content : Text} :
    (empty.changeAll history).textAt? path = some content
      ↔ IsLastText history path content := by
  -- from the last addition back, since the last one decides
  induction history using List.reverseRecOn with
  | nil =>
    constructor
    · intro h
      cases h
    · rintro ⟨before, c, after, hsplit, -⟩
      exact absurd hsplit.symm (by simp)
  | append_singleton history c ih =>
    rw [changeAll_concat, textAt?_change, Option.or_eq_some_iff, isLastText_concat, ih]

lemma IsClosed.has_changeAll (hs : s.IsClosed) (history : List Change) :
    (s.changeAll history).has path = true
      ↔ s.has path = true ∨ ∃ c ∈ history, c.Brings (normalizeText path) := by
  -- from the first addition on, so that every store in between is closed
  induction history generalizing s with
  | nil => simp [Store.changeAll]
  | cons c history ih =>
    show ((s.change c).changeAll history).has path = true ↔ _
    rw [ih (hs.change c), hs.has_change, or_assoc, List.exists_mem_cons_iff]

lemma has_changeAll_empty {history : List Change} :
    (empty.changeAll history).has path = true
      ↔ ∃ c ∈ history, c.Brings (normalizeText path) := by
  rw [isClosed_empty.has_changeAll]
  exact or_iff_right (by simp [has, empty, textAt?])

/-! ## Stores that are built and then changed -/

/-- The additions that a store comes from, when it is built of files and directories and is then
changed. -/
def additions (files : List (Text × Text)) (directories : List Text) (changes : List Change) :
    List Change :=
  directories.map .directory ++ files.map (fun file => .file file.1 file.2) ++ changes

lemma changeAll_build (files : List (Text × Text)) (directories : List Text)
    (changes : List Change) :
    (build files directories).changeAll changes
      = empty.changeAll (additions files directories changes) := by
  unfold additions Store.changeAll build
  rw [List.foldl_append, List.foldl_append, List.foldl_map, List.foldl_map]
  rfl

lemma readText_eq_ok_iff {content : Text} :
    s.readText path = .ok content ↔ s.textAt? path = some content := by
  rcases htext : s.textAt? path with - | found
  · simp [readText, htext]
  · simp [readText, htext]

lemma readText_eq_error_iff {e : ReadError} :
    s.readText path = .error e
      ↔ s.textAt? path = none ∧ e = .unreadable .unknownFile path := by
  rcases htext : s.textAt? path with - | found
  · simp [readText, htext, eq_comm]
  · simp [readText, htext]

/-- A file that can be read exists. -/
lemma has_of_readText {content : Text} (h : s.readText path = .ok content) :
    s.has path = true := by
  rw [readText_eq_ok_iff] at h
  rw [has, h]
  rfl

/-- No text is under a path exactly when no addition puts one there. -/
lemma textAt?_changeAll_empty_eq_none {history : List Change} :
    (empty.changeAll history).textAt? path = none
      ↔ ∀ c ∈ history, c.textFor? path = none := by
  induction history using List.reverseRecOn with
  | nil => exact ⟨fun _ _ h => absurd h List.not_mem_nil, fun _ => rfl⟩
  | append_singleton history c ih =>
    rw [changeAll_concat, textAt?_change, Option.or_eq_none_iff, ih, List.forall_mem_append,
      List.forall_mem_singleton, and_comm]

/-- A path in normal form exists when there is a text in it or deeper below it. -/
lemma has_of_under {history : List Change} {p : Path} {name content : Text} (hp : p.IsNormal)
    (hnames : ∀ name ∈ names, IsName name ∧ name ≠ up) (hname : IsName name ∧ name ≠ up)
    (htext : (empty.changeAll history).readText (p.under (names ++ [name])).print
      = .ok content) :
    (empty.changeAll history).has p.print = true := by
  have hparent : (p.under names).IsNormal := hp.under hnames
  have hfile : ((p.under names).under [name]).IsNormal :=
    hparent.under (List.forall_mem_singleton.2 hname)
  have habove : IsAbove p.print (p.under names).print :=
    hp.clean.isAbove_under_names hp.anchored fun other h => (hnames other h).1
  -- the addition that the text comes from brings about its directory and what is above that
  have hdirectory : normalizeText (parentText ((p.under names).under [name]).print)
      = (p.under names).print := hparent.normalizeText_parentText hname.1
  rw [← under_under, readText_eq_ok_iff, textAt?_changeAll_empty] at htext
  obtain ⟨before, c, after, rfl, hc, -⟩ := htext
  refine has_changeAll_empty.2 ⟨c, by simp, ?_⟩
  rcases c with ⟨added, text⟩ | added
  · rw [Change.textFor?, Option.ite_none_right_eq_some, hfile.normalizeText] at hc
    refine .inr ?_
    rw [hc.1, hdirectory, hp.normalizeText]
    exact habove
  · cases hc

/-- **A store is determined by its additions.** It has the last text that was added under a path and
no text but those; a path exists in it exactly when one of the additions brings it about, whatever
their order is; and adding a directory changes no text. -/
theorem changeAll_build_determined (files : List (Text × Text)) (directories : List Text)
    (changes : List Change) (path : Text) :
    let s := (build files directories).changeAll changes
    let history := additions files directories changes
    (∀ content, s.readText path = .ok content ↔ IsLastText history path content)
    ∧ (∀ e, s.readText path = .error e
        ↔ (∀ c ∈ history, c.textFor? path = none) ∧ e = .unreadable .unknownFile path)
    ∧ (s.has path = true ↔ ∃ c ∈ history, c.Brings (normalizeText path))
    ∧ (∀ files' directories' changes', (additions files' directories' changes').Perm history →
        ((build files' directories').changeAll changes').has path = s.has path)
    ∧ ∀ directory, (s.addDirectory directory).readText path = s.readText path := by
  intro s history
  have hs : s = empty.changeAll history := changeAll_build files directories changes
  refine ⟨fun content => ?_, fun e => ?_, ?_, fun files' directories' changes' hperm => ?_,
    fun directory => rfl⟩
  · rw [readText_eq_ok_iff, hs, textAt?_changeAll_empty]
  · rw [readText_eq_error_iff, hs, textAt?_changeAll_empty_eq_none]
  · rw [hs, has_changeAll_empty]
  · -- only membership among the additions counts, which a permutation keeps
    have hiff : (∃ c ∈ additions files' directories' changes', c.Brings (normalizeText path))
        ↔ ∃ c ∈ history, c.Brings (normalizeText path) :=
      exists_congr fun c => and_congr_left fun _ => hperm.mem_iff
    rw [changeAll_build, hs, Bool.eq_iff_iff, has_changeAll_empty, has_changeAll_empty, hiff]

end Store
end YiiNavigator
