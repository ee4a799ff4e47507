import Mathlib.Algebra.GroupWithZero.Nat
import YiiNavigator.Project
import YiiNavigator.Proofs.Convention
import YiiNavigator.Proofs.FileSystem.Keys
import YiiNavigator.Proofs.FileSystem.Tree
import YiiNavigator.Proofs.Workspace

/-!
# The controllers of a project

A module is looked for by the files with the ending of controllers anywhere below the modules
directory, and then for the controllers below its own directory. Each controller in a store is found
that way, and found once (`controllers_complete`): files elsewhere in the modules directory bring up
modules without controllers at most, and a controller has one owner only.
-/

namespace YiiNavigator
namespace Project

open YiiNavigator.Path

variable {conv : Convention} {s : Store} {p : Path} {cwd root path : Text}
  {owner owner' : Option Text}
  {front names : List Text}

/-! ## Owners -/

/-- Whether a path is that of a controller of the application or, when one is given, of a module: it
ends like controllers do and lies below the directory of the owner's controllers. -/
def IsControllerOf (conv : Convention) (root : Text) (owner : Option Text) (path : Text) : Prop :=
  conv.controllerEnding <:+ path ∧ ∃ names, names ≠ []
    ∧ read path = (read root).under (conv.trail owner ++ conv.controllersDir :: names)

/-- The order of owners: the application, and the modules by their names. -/
def ownerPrecedes : Option Text → Option Text → Bool
  | none, _ => true
  | some _, none => false
  | some a, some b => Text.precedes a b

lemma ownerPrecedes_refl (owner : Option Text) : ownerPrecedes owner owner = true := by
  rcases owner with - | m
  · rfl
  · exact Text.precedes_refl m

/-- Whether a controller comes before another one: its owner does, and its path does if they have
the same owner. -/
def ControllerPrecedes (conv : Convention) (root a b : Text) : Prop :=
  ∀ owner owner', IsControllerOf conv root owner a → IsControllerOf conv root owner' b →
    ownerPrecedes owner owner' = true ∧ (owner = owner' → Text.precedes a b = true)

/-- A controller has one owner: the name in the protected directory tells the application from a
module. -/
lemma IsControllerOf.owner_eq (hdistinct : conv.controllersDir ≠ conv.modulesDir)
    (h : IsControllerOf conv root owner path) (h' : IsControllerOf conv root owner' path) :
    owner = owner' := by
  obtain ⟨-, names, -, hread⟩ := h
  obtain ⟨-, names', -, hread'⟩ := h'
  have hnames : conv.trail owner ++ conv.controllersDir :: names
      = conv.trail owner' ++ conv.controllersDir :: names' :=
    List.append_cancel_left (congrArg Path.segments (hread.symm.trans hread'))
  -- behind the protected directory come the controllers of the application or the modules
  rcases owner with - | m
  · rcases owner' with - | m'
    · rfl
    · simp only [Convention.trail, List.cons_append, List.nil_append, List.cons.injEq] at hnames
      exact absurd hnames.2.1 hdistinct
  · rcases owner' with - | m'
    · simp only [Convention.trail, List.cons_append, List.nil_append, List.cons.injEq] at hnames
      exact absurd hnames.2.1.symm hdistinct
    · simp only [Convention.trail, List.cons_append, List.nil_append, List.cons.injEq] at hnames
      rw [hnames.2.2.1]

/-- The application and modules with different names in their order are in the order of owners. -/
lemma pairwise_owners (hnodup : names.Nodup)
    (hsorted : names.Pairwise fun a b => Text.precedes a b = true) :
    (none :: names.map some).Pairwise fun a b => a ≠ b ∧ ownerPrecedes a b = true := by
  rw [List.pairwise_cons, List.pairwise_map]
  constructor
  · intro owner howner
    obtain ⟨m, -, rfl⟩ := List.mem_map.1 howner
    exact ⟨Option.some_ne_none m |>.symm, rfl⟩
  · exact (hnodup.and hsorted).imp fun ⟨hne, hle⟩ => ⟨fun heq => hne (Option.some.inj heq), hle⟩

/-- Sorted lists of the controllers of each owner, in the order of the owners, are in the order of
controllers, and have no controller twice. -/
lemma pairwise_flatMap_owners (hdistinct : conv.controllersDir ≠ conv.modulesDir)
    {owners : List (Option Text)} {listed : Option Text → List Text}
    (howners : owners.Pairwise fun a b => a ≠ b ∧ ownerPrecedes a b = true)
    (hsorted : ∀ owner, (listed owner).Pairwise fun a b => a ≠ b ∧ Text.precedes a b = true)
    (hlisted : ∀ owner ∈ owners, ∀ path ∈ listed owner, IsControllerOf conv root owner path) :
    (owners.flatMap listed).Pairwise fun a b => a ≠ b ∧ ControllerPrecedes conv root a b := by
  -- two controllers of one list have its owner, and those of two lists have different ones
  refine List.pairwise_flatMap.2 ⟨fun owner howner => ?_, ?_⟩
  · refine (hsorted owner).imp_of_mem fun {a b} ha hb hab => ⟨hab.1, ?_⟩
    intro first second hfirst hsecond
    rw [hfirst.owner_eq hdistinct (hlisted owner howner a ha),
      hsecond.owner_eq hdistinct (hlisted owner howner b hb)]
    exact ⟨ownerPrecedes_refl owner, fun _ => hab.2⟩
  · refine howners.imp_of_mem fun {owner owner'} howner howner' hle a ha b hb => ?_
    have ha := hlisted owner howner a ha
    have hb := hlisted owner' howner' b hb
    constructor
    · rintro rfl
      exact hle.1 (ha.owner_eq hdistinct hb)
    · intro first second hfirst hsecond
      rw [hfirst.owner_eq hdistinct ha, hsecond.owner_eq hdistinct hb]
      exact ⟨hle.2, fun heq => absurd heq hle.1⟩

/-! ## What is found -/

/-- The names that lead from a directory to a file of a store are the parts of the way there. -/
lemma parts_relativeText (hs : s.IsKeyed) (hp : (p.under front).IsNormal)
    (hpath : path ∈ s.files.map (·.1)) (hread : read path = p.under (front ++ names))
    (workingDirectory : Text) :
    (read (relativeText workingDirectory (p.under front).print path)).parts = names := by
  rw [← under_under] at hread
  have hunder : ((p.under front).under names).IsNormal :=
    hread ▸ hs.isNormal_read hpath (hread ▸ hp.anchored)
  have hclean : IsClean ⟨.relative, names⟩ := fun name hname =>
    hunder.clean name (List.mem_append_right _ hname)
  rw [← hs.print_read hpath, hread, hp.relativeText_under workingDirectory hunder,
    hclean.read_print]
  rfl

/-- The module of a file of a store has the name of a directory. -/
lemma isFileName_of_read {m : Text} (hs : s.IsKeyed) (hp : p.IsNormal)
    (hpath : path ∈ s.files.map (·.1))
    (hread : read path = p.under (conv.trail (some m) ++ names)) : IsFileName m := by
  have hnormal : (read path).IsNormal := hs.isNormal_read hpath (hread ▸ hp.anchored)
  have hsegment : m ∈ (read path).segments := by
    rw [hread]
    simp [Path.under, Convention.trail]
  exact ⟨hnormal.clean m hsegment, fun hup => hnormal.no_up (hup ▸ hsegment)⟩

/-- What is listed for each owner makes the controllers of a project. -/
lemma controllers_eq (h : modules conv (s.fileSystem cwd) root = .ok names) :
    controllers conv (s.fileSystem cwd) root = .ok ((none :: names.map some).flatMap fun owner =>
      s.filesBelow (conv.controllersDirectory root owner) conv.controllerEnding) := by
  have hlists : (none :: names.map some).mapM (fun owner => (s.fileSystem cwd).filesBelow
        (conv.controllersDirectory root owner) conv.controllerEnding)
      = Except.ok ((none :: names.map some).map fun owner =>
        s.filesBelow (conv.controllersDirectory root owner) conv.controllerEnding) :=
    List.mapM_pure
  unfold controllers
  rw [h]
  show (do
    let lists ← (none :: names.map some).mapM fun owner =>
      (s.fileSystem cwd).filesBelow (conv.controllersDirectory root owner) conv.controllerEnding
    return lists.flatten) = _
  rw [hlists]
  rfl

/-- The actions in a file of a store are those in the catalog of its text. -/
lemma actionsIn_eq {text : Text} (h : s.textAt? path = some text) :
    actionsIn conv (s.fileSystem cwd) path = Action.catalog conv text := by
  have hread : (s.fileSystem cwd).readText path = .ok text := Store.readText_eq_ok_iff.2 h
  rw [actionsIn, hread]

section

variable (hs : s.IsKeyed) (hp : p.IsNormal) (hanchor : p.anchor = .root)
  (hprotected : IsFileName conv.protectedDir) (hmodules : IsFileName conv.modulesDir)

include hs hp hanchor hprotected hmodules

/-- The modules that are found are those that have a file with the ending of controllers at or below
their place, each once and in the order of their names. -/
lemma exists_modules : ∃ found, modules conv (s.fileSystem cwd) p.print = .ok found ∧ found.Nodup
    ∧ found.Pairwise (fun a b => Text.precedes a b = true)
    ∧ ∀ m, m ∈ found ↔ ∃ path ∈ s.files.map (·.1), conv.controllerEnding <:+ path
      ∧ ∃ below, read path = p.under (conv.trail (some m) ++ below) := by
  have hnames : ∀ name ∈ [conv.protectedDir, conv.modulesDir], IsFileName name := by
    simp [hprotected, hmodules]
  have hdirectory : joinTexts p.print [conv.protectedDir, conv.modulesDir]
      = (p.under [conv.protectedDir, conv.modulesDir]).print :=
    hp.clean.joinTexts hp.anchored fun name h => (hnames name h).toIsName
  have hunder := hp.below hnames
  refine ⟨_, by rw [modules, hdirectory]; rfl,
    (Text.sorted_perm _).nodup_iff.2 (Text.nodup_eraseDups _), Text.pairwise_sorted _, fun m => ?_⟩
  rw [(Text.sorted_perm _).mem_iff, List.mem_eraseDups, List.mem_filterMap]
  simp only [hs.mem_filesBelow_under hunder hanchor (List.cons_ne_nil _ _)]
  -- the way from the modules directory down to a file begins with the module
  constructor
  · rintro ⟨path, ⟨hpath, ⟨names, -, hread⟩, hending⟩, hfirst⟩
    rw [parts_relativeText hs hunder hpath hread, List.head?_eq_some_iff] at hfirst
    obtain ⟨below, rfl⟩ := hfirst
    exact ⟨path, hpath, hending, below, hread⟩
  · rintro ⟨path, hpath, hending, below, hread⟩
    refine ⟨path, ⟨hpath, ⟨m :: below, List.cons_ne_nil _ _, hread⟩, hending⟩, ?_⟩
    rw [parts_relativeText hs hunder hpath hread]
    rfl

/-- The controllers that are listed for an owner are those of the owner. -/
lemma mem_controllersOf (hcontrollers : IsFileName conv.controllersDir)
    (howner : ∀ m ∈ owner, IsFileName m) :
    path ∈ s.filesBelow (conv.controllersDirectory p.print owner) conv.controllerEnding
      ↔ path ∈ s.files.map (·.1) ∧ IsControllerOf conv p.print owner path := by
  have hnames : ∀ name ∈ conv.trail owner ++ [conv.controllersDir], IsFileName name := by
    rcases owner with - | m
    · simp [Convention.trail, hprotected, hcontrollers]
    · simp [Convention.trail, hprotected, hmodules, hcontrollers, howner m rfl]
  have hdirectory : conv.controllersDirectory p.print owner
      = (p.under (conv.trail owner ++ [conv.controllersDir])).print :=
    Convention.directory_eq hp.clean hp.anchored fun name h => (hnames name h).toIsName
  rw [hdirectory, hs.mem_filesBelow_under (hp.below hnames) hanchor (by simp), IsControllerOf,
    hp.clean.read_print, and_comm (a := conv.controllerEnding <:+ path)]
  simp only [List.append_assoc, List.singleton_append]

/-- The controllers that are found are those of the application and of all modules, each once and in
their order. -/
lemma exists_controllers (hcontrollers : IsFileName conv.controllersDir)
    (hdistinct : conv.controllersDir ≠ conv.modulesDir) :
    ∃ found, controllers conv (s.fileSystem cwd) p.print = .ok found
      ∧ (∀ path, path ∈ found ↔ path ∈ s.files.map (·.1)
        ∧ ∃ owner, IsControllerOf conv p.print owner path)
      ∧ found.Pairwise fun a b => a ≠ b ∧ ControllerPrecedes conv p.print a b := by
  obtain ⟨names, hnames, hnodup, hsorted, hmem⟩ :=
    exists_modules hs hp hanchor hprotected hmodules
  have howners : ∀ owner ∈ none :: names.map some, ∀ m ∈ owner, IsFileName m := by
    intro owner howner m hm
    obtain rfl : owner = some m := hm
    have hname : m ∈ names := by simpa using howner
    obtain ⟨path, hpath, -, below, hread⟩ := (hmem m).1 hname
    exact isFileName_of_read hs hp hpath hread
  have hlisted : ∀ owner ∈ none :: names.map some, ∀ path,
      path ∈ s.filesBelow (conv.controllersDirectory p.print owner) conv.controllerEnding
        ↔ path ∈ s.files.map (·.1) ∧ IsControllerOf conv p.print owner path :=
    fun owner howner _ =>
      mem_controllersOf hs hp hanchor hprotected hmodules hcontrollers (howners owner howner)
  refine ⟨_, controllers_eq hnames, fun path => ?_, ?_⟩
  · rw [List.mem_flatMap]
    constructor
    · rintro ⟨owner, howner, hpath⟩
      rw [hlisted owner howner] at hpath
      exact ⟨hpath.1, owner, hpath.2⟩
    · rintro ⟨hpath, owner, hcontroller⟩
      have howner : owner ∈ none :: names.map some := by
        rcases owner with - | m
        · exact List.mem_cons_self
        · -- the module of a controller is among those that the controller itself brings up
          obtain ⟨hending, below, -, hread⟩ := hcontroller
          rw [hp.clean.read_print] at hread
          exact List.mem_cons_of_mem _
            (List.mem_map_of_mem ((hmem m).2 ⟨path, hpath, hending, _, hread⟩))
      exact ⟨owner, howner, (hlisted owner howner path).2 ⟨hpath, hcontroller⟩⟩
  · refine pairwise_flatMap_owners hdistinct (pairwise_owners hnodup hsorted) (fun owner => ?_)
      fun owner howner path hpath => ((hlisted owner howner path).1 hpath).2
    exact hs.nodup_filesBelow.and (Store.pairwise_filesBelow _ _ _)

end

/-! ## All of a project -/

/-- **The controllers of a project are found, each once.** They are the files of the store below the
controllers directory of the application or of a module that end like controllers do. Those of the
application come first, then those of each module in the order of the modules, and the ones of an
owner are sorted. The actions of the project are those in the catalogs of these files. -/
theorem controllers_complete (conv : Convention) (files : List (Text × Text))
    (directories : List Text) (changes : List Store.Change) (root : Text)
    (hprotected : IsFileName conv.protectedDir) (hcontrollers : IsFileName conv.controllersDir)
    (hmodules : IsFileName conv.modulesDir) (hdistinct : conv.controllersDir ≠ conv.modulesDir)
    (hroot : IsAbsolute root) (hanchor : Anchor.read root = .root) (cwd : Text) :
    let s := (Store.build files directories).changeAll changes
    ∃ found : List (Text × Text),
      controllers conv (s.fileSystem cwd) root = .ok (found.map (·.1))
      ∧ (found.map (·.1)).Nodup
      ∧ (∀ file, file ∈ found ↔ file ∈ s.files ∧ ∃ owner, IsControllerOf conv root owner file.1)
      ∧ found.Pairwise (fun a b => ControllerPrecedes conv root a.1 b.1)
      ∧ countActions conv (s.fileSystem cwd) root
        = .ok (found.map fun file => (Action.catalog conv file.2).length).sum := by
  intro s
  have hs : s.IsKeyed := Store.isKeyed_changeAll_build files directories changes
  obtain ⟨p, hp, rfl⟩ := hroot.exists_normal
  have hanchor : p.anchor = .root :=
    (congrArg Path.anchor hp.clean.read_print).symm.trans hanchor
  obtain ⟨paths, hpaths, hmem, hpairwise⟩ :=
    exists_controllers hs hp hanchor hprotected hmodules hcontrollers hdistinct
  have htext : ∀ path ∈ s.files.map (·.1),
      s.textAt? path = some ((s.textAt? path).getD []) := by
    intro path hpath
    obtain ⟨text, htext⟩ := Option.isSome_iff_exists.1
      (Store.textAt?_isSome_iff.2 ((hs.normal path hpath).symm ▸ hpath))
    rw [htext, Option.getD_some]
  have hfirst : (paths.map fun path => (path, (s.textAt? path).getD [])).map (·.1) = paths := by
    rw [List.map_map]
    exact List.map_id _
  -- each path that is found goes together with its text, which makes it a file of the store
  refine ⟨paths.map fun path => (path, (s.textAt? path).getD []), ?_, ?_, ?_, ?_, ?_⟩
  · rw [hfirst, hpaths]
  · rw [hfirst]
    exact hpairwise.imp And.left
  · rintro ⟨path, content⟩
    rw [List.mem_map, hs.mem_files]
    constructor
    · rintro ⟨found, hfound, heq⟩
      obtain ⟨hpath, howner⟩ := (hmem found).1 hfound
      obtain ⟨rfl, rfl⟩ := Prod.mk.inj heq
      exact ⟨⟨hpath, htext _ hpath⟩, howner⟩
    · rintro ⟨⟨hpath, hcontent⟩, howner⟩
      refine ⟨path, (hmem path).2 ⟨hpath, howner⟩, ?_⟩
      rw [hcontent, Option.getD_some]
  · exact List.pairwise_map.2 (hpairwise.imp And.right)
  · have hactions : ∀ path ∈ paths, (actionsIn conv (s.fileSystem cwd) path).length
        = (Action.catalog conv ((s.textAt? path).getD [])).length := by
      intro path hpath
      rw [actionsIn_eq (htext path ((hmem path).1 hpath).1)]
    rw [countActions, hpaths, List.map_map]
    show Except.ok (paths.flatMap (actionsIn conv (s.fileSystem cwd))).length = _
    rw [List.length_flatMap, List.map_congr_left hactions]
    rfl

/-- Files of the application and of two modules, one of which has a name that begins like that of
the other, and a file that lies directly in the modules directory. -/
def sampleFiles : List (Text × Text) :=
  [ ("/ws/protected/modules/StrayController.php".toList, []),
    ("/ws/protected/modules/ab/controllers/OneController.php".toList, []),
    ("/ws/protected/modules/a/controllers/deep/TwoController.php".toList, []),
    ("/ws/protected/controllers/SiteController.php".toList, []) ]

/-- The controllers of the application and of both modules are found, and the file directly in the
modules directory is not. -/
theorem controllers_complete_modules :
    let s := (Store.build sampleFiles []).changeAll []
    (IsFileName Convention.stock.protectedDir ∧ IsFileName Convention.stock.controllersDir
      ∧ IsFileName Convention.stock.modulesDir
      ∧ Convention.stock.controllersDir ≠ Convention.stock.modulesDir
      ∧ IsAbsolute "/ws".toList ∧ Anchor.read "/ws".toList = .root)
    ∧ ∃ found : List Text, controllers .stock (s.fileSystem ['/']) "/ws".toList = .ok found
      ∧ (∀ path ∈ (sampleFiles.map (·.1)).tail, path ∈ found)
      ∧ "/ws/protected/modules/StrayController.php".toList ∉ found := by
  intro s
  have hprotected : IsFileName Convention.stock.protectedDir := by decide
  have hcontrollers : IsFileName Convention.stock.controllersDir := by decide
  have hmodules : IsFileName Convention.stock.modulesDir := by decide
  have hdistinct : Convention.stock.controllersDir ≠ Convention.stock.modulesDir := by decide
  have hroot : IsAbsolute "/ws".toList := ⟨by decide, by decide⟩
  have hanchor : Anchor.read "/ws".toList = .root := by decide
  obtain ⟨found, hfound, -, hmem, -⟩ := controllers_complete .stock sampleFiles [] []
    "/ws".toList hprotected hcontrollers hmodules hdistinct hroot hanchor ['/']
  have hfiles : s.files = sampleFiles := by decide +kernel
  have hfind : ∀ path, (path, []) ∈ sampleFiles →
      (∃ owner, IsControllerOf .stock "/ws".toList owner path) → path ∈ found.map (·.1) := by
    intro path hpath howner
    exact List.mem_map_of_mem ((hmem (path, [])).2 ⟨hfiles ▸ hpath, howner⟩)
  have happlication := hfind "/ws/protected/controllers/SiteController.php".toList (by decide)
    ⟨none, by decide, ["SiteController.php".toList], by decide, by decide⟩
  have hfirst := hfind "/ws/protected/modules/a/controllers/deep/TwoController.php".toList
    (by decide) ⟨some "a".toList, by decide, ["deep".toList, "TwoController.php".toList],
      by decide, by decide⟩
  have hsecond := hfind "/ws/protected/modules/ab/controllers/OneController.php".toList (by decide)
    ⟨some "ab".toList, by decide, ["OneController.php".toList], by decide, by decide⟩
  have hstray : "/ws/protected/modules/StrayController.php".toList ∉ found.map (·.1) := by
    intro h
    obtain ⟨file, hfile, hpath⟩ := List.mem_map.1 h
    obtain ⟨-, owner, -, names, -, hread⟩ := (hmem file).1 hfile
    have hsegments : ["ws".toList, "protected".toList, "modules".toList,
        "StrayController.php".toList]
          = "ws".toList :: (Convention.stock.trail owner ++ "controllers".toList :: names) := by
      rw [hpath] at hread
      exact congrArg Path.segments hread
    rcases owner with - | m
    · simp only [Convention.trail, List.cons_append, List.nil_append, List.cons.injEq] at hsegments
      exact absurd hsegments.2.2.1 (by decide)
    · cases hsegments
  exact ⟨⟨hprotected, hcontrollers, hmodules, hdistinct, hroot, hanchor⟩, _, hfound,
    List.forall_mem_cons.2 ⟨hsecond, List.forall_mem_cons.2 ⟨hfirst,
      List.forall_mem_singleton.2 happlication⟩⟩, hstray⟩

end Project
end YiiNavigator
