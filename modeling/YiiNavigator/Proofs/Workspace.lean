import YiiNavigator.Proofs.Path.Canonical
import YiiNavigator.Workspace

/-!
# Files of a workspace

The names that lead from the root of a workspace to a directory of the application or of a module
are found again in the path of every file there: the place, its module, and the index of the
directory.
-/

namespace YiiNavigator

open YiiNavigator.Path

/-! ## Conventions with plain directory names -/

namespace Convention

/-- The names of the directories that lead to views and to controllers. -/
def directoryNames (conv : Convention) : List Text :=
  [conv.protectedDir, conv.viewsDir, conv.controllersDir, conv.modulesDir]

/-- Whether the directory names are plain. -/
def HasPlainNames (conv : Convention) : Prop :=
  ∀ name ∈ conv.directoryNames, Path.IsPlain name

/-- Whether the directory names are distinct. -/
def HasDistinctNames (conv : Convention) : Prop :=
  conv.directoryNames.Nodup

/-- Whether the directory names are plain and distinct, and file names of controllers are segments
of paths. -/
structure IsPlain (conv : Convention) : Prop where
  hasPlainNames : conv.HasPlainNames
  hasDistinctNames : conv.HasDistinctNames
  suffix_no_slash : '/' ∉ conv.controllerSuffix
  suffix_no_backslash : '\\' ∉ conv.controllerSuffix

/-- Whether none of some names is that of the modules directory and comes right after that of the
protected directory. -/
def HasNoModules (conv : Convention) (names : List Text) : Prop :=
  names.IsChain fun above name => ¬(above = conv.protectedDir ∧ name = conv.modulesDir)

instance (conv : Convention) : Decidable conv.HasPlainNames :=
  inferInstanceAs (Decidable (∀ name ∈ conv.directoryNames, Path.IsPlain name))

instance (conv : Convention) : Decidable conv.HasDistinctNames :=
  inferInstanceAs (Decidable conv.directoryNames.Nodup)

instance (conv : Convention) (names : List Text) : Decidable (conv.HasNoModules names) :=
  inferInstanceAs (Decidable (names.IsChain _))

/-- The names that lead from the root of a workspace to the application or to a module. -/
def trail (conv : Convention) : Option Text → List Text
  | none => [conv.protectedDir]
  | some module => [conv.protectedDir, conv.modulesDir, module]

/-- Whether a module, if there is one, has a plain name other than that of the views. -/
def IsModule (conv : Convention) (module : Option Text) : Prop :=
  ∀ name ∈ module, Path.IsPlain name ∧ name ≠ conv.viewsDir

variable {conv : Convention} {module : Option Text} {p : Path} {name : Text}

lemma HasDistinctNames.protectedDir_ne (h : conv.HasDistinctNames) :
    conv.protectedDir ≠ conv.viewsDir ∧ conv.protectedDir ≠ conv.controllersDir
      ∧ conv.protectedDir ≠ conv.modulesDir := by
  simp only [HasDistinctNames, directoryNames, List.nodup_cons, List.mem_cons, not_or] at h
  exact ⟨h.1.1, h.1.2.1, h.1.2.2.1⟩

lemma HasDistinctNames.viewsDir_ne (h : conv.HasDistinctNames) :
    conv.viewsDir ≠ conv.protectedDir ∧ conv.viewsDir ≠ conv.controllersDir
      ∧ conv.viewsDir ≠ conv.modulesDir := by
  simp only [HasDistinctNames, directoryNames, List.nodup_cons, List.mem_cons, not_or] at h
  exact ⟨Ne.symm h.1.1, h.2.1.1, h.2.1.2.1⟩

lemma HasDistinctNames.controllersDir_ne_modulesDir (h : conv.HasDistinctNames) :
    conv.controllersDir ≠ conv.modulesDir := by
  simp only [HasDistinctNames, directoryNames, List.nodup_cons, List.mem_cons, not_or] at h
  exact h.2.2.1.1

lemma HasPlainNames.protectedDir (h : conv.HasPlainNames) : Path.IsPlain conv.protectedDir :=
  h _ (by simp [directoryNames])

lemma HasPlainNames.viewsDir (h : conv.HasPlainNames) : Path.IsPlain conv.viewsDir :=
  h _ (by simp [directoryNames])

lemma HasPlainNames.controllersDir (h : conv.HasPlainNames) : Path.IsPlain conv.controllersDir :=
  h _ (by simp [directoryNames])

lemma HasPlainNames.modulesDir (h : conv.HasPlainNames) : Path.IsPlain conv.modulesDir :=
  h _ (by simp [directoryNames])

lemma IsModule.plain (h : conv.IsModule module) : ∀ name ∈ module, Path.IsPlain name :=
  fun name hname => (h name hname).1

lemma HasPlainNames.trail (h : conv.HasPlainNames)
    (hmodule : ∀ name ∈ module, Path.IsPlain name) :
    ∀ name ∈ conv.trail module, Path.IsPlain name := by
  rcases module with - | m
  · exact List.forall_mem_singleton.2 h.protectedDir
  · exact List.forall_mem_cons.2 ⟨h.protectedDir, List.forall_mem_cons.2
      ⟨h.modulesDir, List.forall_mem_singleton.2 (hmodule m rfl)⟩⟩

lemma HasDistinctNames.viewsDir_notMem_trail (h : conv.HasDistinctNames)
    (hmodule : conv.IsModule module) : conv.viewsDir ∉ conv.trail module := by
  have hprotected : conv.viewsDir ≠ conv.protectedDir := h.viewsDir_ne.1
  have hmodules : conv.viewsDir ≠ conv.modulesDir := h.viewsDir_ne.2.2
  rcases module with - | m
  · simpa [Convention.trail] using hprotected
  · simpa [Convention.trail] using ⟨hprotected, hmodules, Ne.symm (hmodule m rfl).2⟩

lemma HasPlainNames.trail_append (h : conv.HasPlainNames)
    (hmodule : ∀ name ∈ module, Path.IsPlain name) {names : List Text}
    (hnames : ∀ name ∈ names, Path.IsPlain name) :
    ∀ name ∈ conv.trail module ++ names, Path.IsPlain name :=
  List.forall_mem_append.2 ⟨h.trail hmodule, hnames⟩

/-- No module spans a name that is neither that of the protected directory nor that of the modules
directory. -/
lemma hasNoModules_append_cons (front : List Text) {below : List Text}
    (hprotected : name ≠ conv.protectedDir) (hmodules : name ≠ conv.modulesDir) :
    conv.HasNoModules (front ++ name :: below)
      ↔ conv.HasNoModules front ∧ conv.HasNoModules below := by
  constructor
  · intro h
    exact ⟨h.left_of_append, h.right_of_append.tail⟩
  · rintro ⟨hfront, hbelow⟩
    refine hfront.append (hbelow.cons fun _ _ hpair => hprotected hpair.1) ?_
    intro above _ first hfirst hpair
    cases hfirst
    exact hmodules hpair.2

/-- A directory of the application or of a module is found along its trail. -/
lemma directory_eq (hp : p.IsClean) (hanchor : p.anchor ≠ .relative)
    (hnames : ∀ other ∈ conv.trail module ++ [name], IsName other) :
    conv.directory name p.print module = (p.under (conv.trail module ++ [name])).print := by
  rw [← hp.ofTexts hanchor hnames]
  unfold Convention.directory
  rcases module with - | m
  · rfl
  · have hmodule : IsName m := hnames m (by simp [trail])
    obtain ⟨c, rest, rfl⟩ := List.exists_cons_of_ne_nil hmodule.ne_nil
    rfl

lemma HasPlainNames.directory (h : conv.HasPlainNames)
    (hmodule : ∀ name ∈ module, Path.IsPlain name) (hp : p.IsClean) (hanchor : p.anchor ≠ .relative)
    (hname : Path.IsPlain name) :
    conv.directory name p.print module = (p.under (conv.trail module ++ [name])).print :=
  directory_eq hp hanchor fun other hother =>
    (h.trail_append hmodule (List.forall_mem_singleton.2 hname) other hother).isName

/-- A directory of the application or of a module has a name. -/
lemma HasPlainNames.exists_directory (h : conv.HasPlainNames)
    (hmodule : ∀ name ∈ module, Path.IsPlain name) {root : Text} (hroot : IsRoot root)
    (hname : Path.IsPlain name) :
    ∃ p : Path, p.IsSettled ∧ p.print = conv.directory name root module ∧ p.segments ≠ [] := by
  obtain ⟨p, hp, rfl⟩ := hroot.exists_settled
  refine ⟨p.under (conv.trail module ++ [name]), hp.under
    (h.trail_append hmodule (List.forall_mem_singleton.2 hname)), ?_, ?_⟩
  · exact (h.directory hmodule hp.clean hp.anchored hname).symm
  · exact List.append_ne_nil_of_right_ne_nil _
      (List.append_ne_nil_of_right_ne_nil _ (List.cons_ne_nil _ _))

end Convention

/-! ## Places -/

namespace Place

variable {conv : Convention} {module : Option Text} {p : Path} {name : Text} {names : List Text}

/-- The place of a path that leads on from the root has the names that lead there. -/
lemma of_eq {path : Text} (hp : p.IsSettled) (hpath : canonical path = (p.under names).print)
    (h : ∀ name ∈ names, Path.IsPlain name) : Place.of (some p.print) path = ⟨p.parts, names⟩ := by
  unfold Place.of
  rw [hpath, (hp.under h).read_print]
  dsimp only
  split
  · rename_i hnone
    cases hnone
  · rename_i hempty
    exact absurd (Option.some.inj hempty) hp.print_ne_nil
  · rename_i hroot
    cases hroot
    have hbelow : p.anchor = (p.under names).anchor
        ∧ p.segments.isPrefixOf (p.under names).segments = true :=
      ⟨rfl, List.isPrefixOf_iff_prefix.2 (List.prefix_append _ _)⟩
    rw [hp.canonical, hp.read_print, if_pos hbelow]
    unfold Path.under
    rw [List.drop_left]

lemma of_under (hp : p.IsSettled) (h : ∀ name ∈ names, Path.IsPlain name) :
    Place.of (some p.print) (p.under names).print = ⟨p.parts, names⟩ :=
  of_eq hp (hp.under h).canonical h

lemma parts_under (p : Path) (names : List Text) : (p.under names).parts = p.parts ++ names := by
  unfold parts Path.under
  dsimp only
  split
  · rfl
  · rfl

/-- Without a root the place of a path has all its parts. -/
lemma of_none {path : Text} (hp : p.IsSettled) (hpath : canonical path = p.print) :
    Place.of none path = ⟨[], p.parts⟩ := by
  unfold Place.of
  rw [hpath, hp.read_print]

/-! ### Parts below a root -/

/-- The parts of the root of a workspace; the empty root is no root. -/
def rootParts : Option Text → List Text
  | none => []
  | some [] => []
  | some root => (read (canonical root)).parts

lemma of_cons (c : Char) (rest path : Text) :
    let r := read (canonical (c :: rest))
    let p := read (canonical path)
    Place.of (some (c :: rest)) path
      = if r.anchor = p.anchor ∧ r.segments.isPrefixOf p.segments
        then ⟨r.parts, p.segments.drop r.segments.length⟩ else ⟨[], p.parts⟩ :=
  rfl

/-- A path whose parts begin with those of the root is parted there. -/
lemma of_eq_of_below {root : Option Text} {path : Text}
    (h : rootParts root <+: (read (canonical path)).parts) :
    Place.of root path
      = ⟨rootParts root, (read (canonical path)).parts.drop (rootParts root).length⟩ := by
  rcases root with - | ⟨- | ⟨c, rest⟩⟩
  · rfl
  · rfl
  · rw [of_cons]
    split
    · rename_i hinside
      rw [← drop_parts hinside.1]
      rfl
    · -- the root is then the relative path without segments, which has no parts
      rename_i hinside
      have hempty : rootParts (some (c :: rest)) = [] := by
        by_contra hne
        have hbegins := ((isClean_read _).prefix_parts_iff (isClean_read _) hne).1 h
        exact hinside ⟨hbegins.1, List.isPrefixOf_iff_prefix.2 hbegins.2⟩
      rw [hempty]
      rfl

/-- A path whose parts do not begin with those of the root has nothing above it. -/
lemma of_eq_of_not_below {root : Option Text} {path : Text}
    (h : ¬rootParts root <+: (read (canonical path)).parts) :
    Place.of root path = ⟨[], (read (canonical path)).parts⟩ := by
  rcases root with - | ⟨- | ⟨c, rest⟩⟩
  · rfl
  · rfl
  · rw [of_cons, if_neg]
    rintro ⟨hanchor, hsegments⟩
    refine h (((isClean_read _).prefix_parts_iff (isClean_read _) ?_).2
      ⟨hanchor, List.isPrefixOf_iff_prefix.1 hsegments⟩)
    intro hempty
    apply h
    show (read (canonical (c :: rest))).parts <+: _
    rw [hempty]
    exact List.nil_prefix

/-- The parts of a path below a root: all of them when they do not begin with those of the root. -/
def partsBelow (root : Option Text) (path : Text) : List Text :=
  let parts := (read (canonical path)).parts
  if rootParts root <+: parts then parts.drop (rootParts root).length else parts

lemma inside_of (root : Option Text) (path : Text) :
    (Place.of root path).inside = partsBelow root path := by
  unfold partsBelow
  dsimp only
  split
  · rename_i h
    rw [of_eq_of_below h]
  · rename_i h
    rw [of_eq_of_not_below h]

/-- The parts below a root are the last ones of the path. -/
lemma inside_suffix (root : Option Text) (path : Text) :
    (Place.of root path).inside <:+ (read (canonical path)).parts := by
  rw [inside_of]
  unfold partsBelow
  dsimp only
  split
  · exact List.drop_suffix _ _
  · exact List.suffix_refl _

/-! ### The last directory of a name -/

lemma lastIndex?_of_notMem (h : name ∉ names) : lastIndex? name names = none := by
  induction names with
  | nil => rfl
  | cons part rest ih =>
    have hpart : part ≠ name := fun heq => h (by rw [heq]; exact List.mem_cons_self)
    unfold lastIndex?
    rw [ih fun hmem => h (List.mem_cons_of_mem _ hmem)]
    exact if_neg hpart

lemma lastIndex?_append_cons (front : List Text) (h : name ∉ names) :
    lastIndex? name (front ++ name :: names) = some front.length := by
  induction front with
  | nil =>
    show lastIndex? name (name :: names) = some 0
    unfold lastIndex?
    rw [lastIndex?_of_notMem h]
    exact if_pos rfl
  | cons part rest ih =>
    show lastIndex? name (part :: (rest ++ name :: names)) = some (rest.length + 1)
    unfold lastIndex?
    rw [ih]

lemma lastDirectory?_of_notMem {above : List Text} {file : Text} (h : name ∉ names) :
    lastDirectory? ⟨above, names ++ [file]⟩ name = none := by
  unfold lastDirectory?
  rw [List.dropLast_concat]
  exact lastIndex?_of_notMem h

lemma lastDirectory?_append_cons {above front below : List Text} {file : Text}
    (h : name ∉ below) :
    lastDirectory? ⟨above, front ++ name :: below ++ [file]⟩ name = some front.length := by
  unfold lastDirectory?
  rw [List.dropLast_concat]
  exact lastIndex?_append_cons front h

/-! ### The names around a directory -/

/-- What comes before the directory at an index. -/
lemma take_length (front below : List Text) (name file : Text) :
    (front ++ name :: below ++ [file]).take front.length = front := by
  rw [List.append_assoc]
  exact List.take_left

/-- What comes below the directory at an index. -/
lemma drop_length_succ (front below : List Text) (name file : Text) :
    (front ++ name :: below ++ [file]).drop (front.length + 1) = below ++ [file] := by
  rw [List.append_assoc, List.cons_append, List.append_cons]
  exact List.drop_left' (by simp)

/-- A place below a directory, the last one of its name. -/
lemma exists_of_mem_directories {place : Place} (h : name ∈ place.inside.dropLast) :
    ∃ above front below file, place = ⟨above, front ++ name :: below ++ [file]⟩
      ∧ name ∉ below := by
  obtain ⟨front, below, hnames, hbelow⟩ := Text.exists_last h
  have hne : place.inside ≠ [] := by
    intro hempty
    rw [hempty] at h
    cases h
  refine ⟨place.above, front, below, place.inside.getLast hne, ?_, hbelow⟩
  rw [← hnames, List.dropLast_append_getLast]

/-- The names of a path say whether there is something between a directory and the file. -/
lemma getLast?_dropLast_append {front below : List Text} {file : Text} (h : name ∉ below) :
    (front ++ name :: below ++ [file]).dropLast.getLast? = some name ↔ below = [] := by
  rw [List.dropLast_concat, List.getLast?_append_of_ne_nil _ (List.cons_ne_nil _ _)]
  rcases below with - | ⟨id, below⟩
  · exact iff_of_true rfl rfl
  · refine iff_of_false (fun hlast => h ?_) (List.cons_ne_nil _ _)
    rw [List.getLast?_cons_cons] at hlast
    exact List.mem_of_getLast? hlast

/-! ### The module of a place -/

lemma lastModule?_append_of_some {m : Text} (front : List Text)
    (h : lastModule? conv names = some m) : lastModule? conv (front ++ names) = some m := by
  induction front with
  | nil => exact h
  | cons part rest ih =>
    show lastModule? conv (part :: (rest ++ names)) = some m
    rw [lastModule?.eq_def]
    dsimp only
    rw [ih]

/-- A run at the front counts when there is none below it. -/
lemma lastModule?_cons (conv : Convention) (part modules module name : Text) (below : List Text) :
    lastModule? conv (part :: modules :: module :: name :: below)
      = (lastModule? conv (modules :: module :: name :: below)).or
        (if part = conv.protectedDir ∧ modules = conv.modulesDir then some module else none) := by
  rw [lastModule?.eq_def]
  dsimp only
  split
  · rename_i hlater
    rw [hlater]
    rfl
  · rename_i hlater
    rw [hlater]
    rfl

/-- There is no module where none but the last two names could be its own or come below it. -/
lemma lastModule?_eq_none (h : conv.HasNoModules names.dropLast.dropLast) :
    lastModule? conv names = none := by
  induction names with
  | nil => rfl
  | cons part rest ih =>
    have htail : (part :: rest).dropLast.dropLast.tail = rest.dropLast.dropLast := by
      rw [List.tail_dropLast, List.tail_dropLast, List.tail_cons]
    have hrest : lastModule? conv rest = none := ih (htail ▸ h.tail)
    rw [lastModule?.eq_def]
    dsimp only
    rw [hrest]
    dsimp only
    split
    · -- a module and a name below it are what the two last names leave in front of them
      exact if_neg (List.isChain_cons_cons.1 h).1
    · rfl

/-- A run is found, whatever leads to it, as long as no other module is found below it. -/
lemma lastModule?_append_run {m : Text} (front : List Text)
    (hdistinct : conv.protectedDir ≠ conv.modulesDir) (hne : names ≠ [])
    (h : conv.HasNoModules (m :: names).dropLast.dropLast) :
    lastModule? conv (front ++ conv.protectedDir :: conv.modulesDir :: m :: names) = some m := by
  obtain ⟨first, rest, rfl⟩ := List.exists_cons_of_ne_nil hne
  refine lastModule?_append_of_some front ?_
  have hbelow : lastModule? conv (conv.modulesDir :: m :: first :: rest) = none := by
    refine lastModule?_eq_none ?_
    show conv.HasNoModules (conv.modulesDir :: (m :: first :: rest).dropLast.dropLast)
    exact List.IsChain.cons h fun _ _ hpair => hdistinct hpair.1.symm
  rw [lastModule?_cons, hbelow, if_pos ⟨rfl, rfl⟩]
  rfl

/-- The module of a trail is found, whatever comes before the trail and below it, as long as no
other module does. -/
lemma lastModule?_append_trail (front : List Text) (hdistinct : conv.HasDistinctNames)
    (hfront : conv.HasNoModules front) (hne : names ≠ [])
    (h : conv.HasNoModules (module.getD conv.protectedDir :: names).dropLast.dropLast) :
    lastModule? conv (front ++ (conv.trail module ++ names)) = module := by
  obtain ⟨first, rest, rfl⟩ := List.exists_cons_of_ne_nil hne
  rcases module with - | m
  · refine lastModule?_eq_none ?_
    have hshort : (conv.protectedDir :: first :: rest).dropLast ≠ [] := List.cons_ne_nil _ _
    show conv.HasNoModules (front ++ conv.protectedDir :: first :: rest).dropLast.dropLast
    rw [List.dropLast_append_of_ne_nil (List.cons_ne_nil _ _),
      List.dropLast_append_of_ne_nil hshort]
    -- the protected directory, which is not that of the modules, comes right after the front
    refine hfront.append h fun above _ name hname hpair => ?_
    rcases rest with - | ⟨second, rest⟩
    · cases hname
    · cases hname
      exact hdistinct.protectedDir_ne.2.2 hpair.2
  · exact lastModule?_append_run front hdistinct.protectedDir_ne.2.2 hne h

/-- A module comes right after the modules directory in the protected one, and something lies below
it. -/
lemma exists_of_lastModule? {m : Text} (h : lastModule? conv names = some m) :
    ∃ above below, names = above ++ conv.protectedDir :: conv.modulesDir :: m :: below
      ∧ below ≠ [] := by
  induction names with
  | nil => cases h
  | cons part rest ih =>
    rw [lastModule?.eq_def] at h
    dsimp only at h
    split at h
    · rename_i module hmodule
      cases h
      obtain ⟨above, below, hrest, hne⟩ := ih hmodule
      exact ⟨part :: above, below, by rw [hrest]; rfl, hne⟩
    · split at h
      · split at h
        · rename_i hpair
          cases h
          exact ⟨[], _ :: _, by rw [hpair.1, hpair.2]; rfl, List.cons_ne_nil _ _⟩
        · cases h
      · cases h

/-- The module of a path is plain: what comes after a modules directory does not lead up. -/
lemma isPlain_of_module? {root : Option Text} {path m : Text} (hplain : conv.HasPlainNames)
    (h : (Place.of root path).module? conv = some m) : Path.IsPlain m := by
  obtain ⟨above, below, hinside, -⟩ := exists_of_lastModule? h
  have hparts : conv.modulesDir :: m :: below <:+ (read (canonical path)).parts := by
    refine List.IsSuffix.trans ⟨above ++ [conv.protectedDir], ?_⟩ (inside_suffix root path)
    rw [hinside, List.append_assoc]
    rfl
  have hsegments : conv.modulesDir :: m :: below <:+ (read (canonical path)).segments := by
    unfold parts at hparts
    split at hparts
    · exact hparts
    · -- the anchor is spelled with slashes, and so is no modules directory
      rename_i hanchored
      refine (List.suffix_cons_iff.1 hparts).resolve_left fun heq => ?_
      apply hplain.modulesDir.no_slash
      rw [(List.cons.inj heq).1]
      exact slash_mem_anchor_print hanchored
  have hname := isName_of_mem_canonical
    (hsegments.subset (List.mem_cons_of_mem _ List.mem_cons_self))
  have hchain := (read_canonical path ▸ isChain_normalize _).suffix hsegments
  exact ⟨hname.1.ne_nil, hname.1.no_slash, hname.2, hname.1.ne_here, fun hup =>
    hplain.modulesDir.ne_up ((List.isChain_cons_cons.1 hchain).1 hup)⟩

end Place

end YiiNavigator
