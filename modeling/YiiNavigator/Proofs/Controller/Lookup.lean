import YiiNavigator.Controller.Lookup
import YiiNavigator.FileSystem.Store
import YiiNavigator.Proofs.Convention
import YiiNavigator.Proofs.View.OfAction
import YiiNavigator.Proofs.Workspace

/-!
# The controller of a view, with a root and without one

What a view belongs to depends on the names below the last views directory, and on the directory
that its controller is looked for in. Without a root that directory is guessed from the path. The
guess is the directory that the root gives, unless the name of the module comes again between the
module and the views.
-/

namespace YiiNavigator

open YiiNavigator.Path

namespace Controller

variable {conv : Convention} {fs : FileSystem} {module : Option Text} {p : Path}
  {path file : Text} {directories below : List Text}

/-! ## Names below a views directory -/

/-- What a view belongs to, by the directory of its controller, the directories that lead to the
view from the last views directory, and the name of its file. -/
def ofNames (conv : Convention) (fs : FileSystem) (path directory : Text) (below : List Text)
    (file : Text) : Except Failure ControllerAction :=
  match below with
  | [] => .error (.noControllerName path)
  | id :: _ => match file? conv fs directory id with
    | none => .error (.controllerMissing (Naming.className id ++ conv.controllerSuffix) directory)
    | some found => .ok (matchIn fs found fun text =>
        actionForView? conv text (View.unmarked (stemOf file)))

/-- A view in a views directory is looked up by its names there. -/
lemma ofView_eq_ofNames {root : Option Text} {above front : List Text}
    (hplace : Place.of root path = ⟨above, front ++ conv.viewsDir :: below ++ [file]⟩)
    (hviews : conv.viewsDir ∉ below) :
    ofView conv fs root path = ofNames conv fs path
      (directoryOfView conv root ⟨above, front ++ conv.viewsDir :: below ++ [file]⟩ front.length)
      below file := by
  have hbelow : ((front ++ conv.viewsDir :: below ++ [file]).drop (front.length + 1)).dropLast
      = below := by
    rw [Place.drop_length_succ, List.dropLast_concat]
  unfold ofView
  rw [hplace]
  dsimp only
  rw [Place.lastDirectory?_append_cons hviews]
  dsimp only
  rw [hbelow, List.getLast?_concat]
  rcases below with - | ⟨id, rest⟩
  · rfl
  · rfl

/-! ## The directory of the controller -/

/-- With a root, the controller of a view is looked for in the application or in the module. -/
lemma directoryOfView_some (conv : Convention) {root : Text} (hroot : root ≠ []) (place : Place)
    (index : ℕ) :
    directoryOfView conv (some root) place index
      = conv.controllersDirectory root (place.module? conv) := by
  obtain ⟨c, rest, rfl⟩ := List.exists_cons_of_ne_nil hroot
  rfl

/-- The names of a path up to the last one that is that of the module, if there is one. -/
def upToModule (module : Option Text) (names : List Text) : List Text :=
  match module with
  | none => names
  | some m => match Place.lastIndex? m names with
    | none => names
    | some i => names.take (i + 1)

/-- Without a root, the controller of a view is looked for beside the views, or in the directory of
the last name that is that of the module. -/
lemma directoryOfView_none (conv : Convention) (place : Place) (index : ℕ) :
    directoryOfView conv none place index
      = canonical (joinAll (upToModule (place.module? conv) (place.inside.take index)
        ++ [conv.controllersDir])) :=
  rfl

/-- A way from a module on is cut behind the module, as long as its name does not come again. -/
lemma upToModule_trail (conv : Convention) (front : List Text)
    (hdirectories : module = none → directories = [])
    (hagain : ∀ name ∈ module, name ∉ directories) :
    upToModule module (front ++ (conv.trail module ++ directories))
      = front ++ conv.trail module := by
  rcases module with - | m
  · rw [hdirectories rfl, List.append_nil]
    rfl
  · have hway : front ++ (conv.trail (some m) ++ directories)
        = front ++ [conv.protectedDir, conv.modulesDir] ++ m :: directories := by
      rw [List.append_assoc]
      rfl
    have hlength : (front ++ conv.trail (some m)).length
        = (front ++ [conv.protectedDir, conv.modulesDir]).length + 1 := by
      rw [List.length_append, List.length_append]
      rfl
    unfold upToModule
    dsimp only
    rw [hway, Place.lastIndex?_append_cons _ (hagain m rfl), ← hway]
    dsimp only
    rw [← hlength, ← List.append_assoc]
    exact List.take_left

section

variable (hdistinct : conv.HasDistinctNames) (hdirectories : module = none → directories = [])
  (hmodules : conv.HasNoModules (module.toList ++ directories))
  (hbelow : conv.HasNoModules below)

include hdistinct hdirectories hmodules hbelow in
/-- The module of a view is that of its trail, whatever comes before the trail. -/
lemma lastModule?_of_views {front : List Text} (hfront : conv.HasNoModules front) (file : Text) :
    Place.lastModule? conv
        (front ++ (conv.trail module ++ (directories ++ conv.viewsDir :: below ++ [file])))
      = module := by
  have hway : conv.HasNoModules (module.getD conv.protectedDir :: directories) := by
    rcases module with - | m
    · rw [hdirectories rfl]
      exact List.isChain_singleton _
    · exact hmodules
  have hall : conv.HasNoModules
      (module.getD conv.protectedDir :: directories ++ conv.viewsDir :: below) :=
    (Convention.hasNoModules_append_cons _ hdistinct.viewsDir_ne.1 hdistinct.viewsDir_ne.2.2).2
      ⟨hway, hbelow⟩
  refine Place.lastModule?_append_trail front hdistinct hfront (by simp) ?_
  rw [← List.cons_append, List.dropLast_concat]
  exact hall.dropLast

end

/-- No module lies above a workspace. -/
lemma hasNoModules_parts (hconv : conv.HasPlainNames) (h : conv.HasNoModules p.segments) :
    conv.HasNoModules p.parts := by
  unfold parts
  split
  · exact h
  · rename_i hanchored
    refine h.cons fun _ _ hpair => ?_
    -- the anchor is spelled with slashes, and so is no directory
    apply hconv.protectedDir.no_slash
    rw [← hpair.1]
    exact slash_mem_anchor_print hanchored

/-! ## The main result -/

/-- **The root is guessed.** A view in the application or in a module belongs to the same controller
and action without a root as with it, or fails in the same way, as long as no other module can be
read from its path and the name of the module does not come again on the way to the views. -/
theorem ofView_none_eq {root : Text} (hconv : conv.HasPlainNames)
    (hdistinct : conv.HasDistinctNames) (hroot : IsRoot root)
    (hmodule : ∀ name ∈ module, IsPlain name)
    (hplain : ∀ name ∈ directories ++ conv.viewsDir :: below ++ [file], IsPlain name)
    (hpath : canonical path = joinTexts root
      (conv.trail module ++ (directories ++ conv.viewsDir :: below ++ [file])))
    (hdirectories : module = none → directories = []) (hviews : conv.viewsDir ∉ below)
    (habove : conv.HasNoModules (read root).segments)
    (hmodules : conv.HasNoModules (module.toList ++ directories))
    (hbelow : conv.HasNoModules below) (hagain : ∀ name ∈ module, name ∉ directories) :
    ofView conv fs none path = ofView conv fs (some root) path := by
  obtain ⟨p, hp, rfl⟩ := hroot.exists_settled
  rw [hp.read_print] at habove
  have hnames : ∀ name ∈ conv.trail module ++ (directories ++ conv.viewsDir :: below ++ [file]),
      IsPlain name := hconv.trail_append hmodule hplain
  have htrail : ∀ name ∈ conv.trail module ++ [conv.controllersDir], IsPlain name :=
    hconv.trail_append hmodule (List.forall_mem_singleton.2 hconv.controllersDir)
  rw [hp.joinTexts hnames] at hpath
  have hinside : ∀ front : List Text,
      front ++ (conv.trail module ++ (directories ++ conv.viewsDir :: below ++ [file]))
        = front ++ (conv.trail module ++ directories) ++ conv.viewsDir :: below ++ [file] := by
    simp
  -- with the root the place has the names below it, and without it all parts of the path
  have hrooted : Place.of (some p.print) path
      = ⟨p.parts, conv.trail module ++ directories ++ conv.viewsDir :: below ++ [file]⟩ := by
    rw [Place.of_eq hp hpath hnames]
    exact congrArg _ (hinside [])
  have hrootless : Place.of none path
      = ⟨[], p.parts ++ (conv.trail module ++ directories) ++ conv.viewsDir :: below
        ++ [file]⟩ := by
    rw [Place.of_none (hp.under hnames) hpath, Place.parts_under, hinside]
  have hdirectory : conv.controllersDirectory p.print module
      = (p.under (conv.trail module ++ [conv.controllersDir])).print :=
    hconv.directory hmodule hp.clean hp.anchored hconv.controllersDir
  have hmodule? : ∀ front : List Text, conv.HasNoModules front → Place.lastModule? conv
      (front ++ (conv.trail module ++ directories) ++ conv.viewsDir :: below ++ [file])
        = module := by
    intro front hfront
    rw [← hinside]
    exact lastModule?_of_views hdistinct hdirectories hmodules hbelow hfront file
  have hmoduleRooted : Place.lastModule? conv
      (conv.trail module ++ directories ++ conv.viewsDir :: below ++ [file]) = module :=
    hmodule? [] List.isChain_nil
  have howner : (p.parts ++ (conv.trail module ++ directories) ++ conv.viewsDir :: below
      ++ [file]).take (p.parts ++ (conv.trail module ++ directories)).length
        = p.parts ++ (conv.trail module ++ directories) :=
    Place.take_length _ below conv.viewsDir file
  rw [ofView_eq_ofNames hrooted hviews, ofView_eq_ofNames hrootless hviews,
    directoryOfView_some conv hp.print_ne_nil, directoryOfView_none]
  unfold Place.module?
  dsimp only
  rw [hmodule? p.parts (hasNoModules_parts hconv habove), howner,
    upToModule_trail conv p.parts hdirectories hagain, List.append_assoc, hp.joinAll htrail,
    (hp.under htrail).canonical, hmoduleRooted, hdirectory]

/-- Below a directory that could be a protected one, a themed view of a module leads to the
controller of the module. -/
theorem ofView_none_eq_themed :
    let path := "/srv/protected/protected/modules/shop/themes/dark/views/cart/index.php".toList
    let controller := "/srv/protected/protected/modules/shop/controllers/CartController.php".toList
    let store := Store.build [(controller, "".toList)] []
    ofView .stock (store.fileSystem ['/']) (some "/srv/protected".toList) path
        = .ok ⟨controller, none⟩
      ∧ ofView .stock (store.fileSystem ['/']) none path = .ok ⟨controller, none⟩ := by
  intro path controller store
  have hconv : Convention.stock.HasPlainNames := by
    decide
  have hdistinct : Convention.stock.HasDistinctNames := by
    decide
  have hroot : IsRoot "/srv/protected".toList := by
    decide +kernel
  have hmodule : ∀ name ∈ some "shop".toList, IsPlain name := by
    rintro name ⟨⟩
    decide
  have hplain : ∀ name ∈ ["themes".toList, "dark".toList] ++ Convention.stock.viewsDir
      :: ["cart".toList] ++ ["index.php".toList], IsPlain name := by
    decide
  have hpath : canonical path = joinTexts "/srv/protected".toList
      (Convention.stock.trail (some "shop".toList) ++ (["themes".toList, "dark".toList]
        ++ Convention.stock.viewsDir :: ["cart".toList] ++ ["index.php".toList])) := by
    decide +kernel
  have hdirectories : some "shop".toList = none → ["themes".toList, "dark".toList] = [] := by
    decide
  have hviews : Convention.stock.viewsDir ∉ ["cart".toList] := by
    decide
  have habove : Convention.stock.HasNoModules (read "/srv/protected".toList).segments := by
    decide +kernel
  have hmodules : Convention.stock.HasNoModules
      ((some "shop".toList).toList ++ ["themes".toList, "dark".toList]) := by
    decide
  have hbelow : Convention.stock.HasNoModules ["cart".toList] := by
    decide
  have hagain : ∀ name ∈ some "shop".toList, name ∉ ["themes".toList, "dark".toList] := by
    rintro name ⟨⟩
    decide
  have hrooted : ofView .stock (store.fileSystem ['/']) (some "/srv/protected".toList) path
      = .ok ⟨controller, none⟩ := by
    decide +kernel
  have hguess : ofView .stock (store.fileSystem ['/']) none path
      = ofView .stock (store.fileSystem ['/']) (some "/srv/protected".toList) path :=
    ofView_none_eq hconv hdistinct hroot hmodule hplain hpath hdirectories hviews habove hmodules
      hbelow hagain
  exact ⟨hrooted, hguess.trans hrooted⟩

/-- A directory named like the module on the way to the views is taken for the module. -/
theorem ofView_none_differs :
    let path := "/ws/protected/modules/shop/themes/shop/views/cart/index.php".toList
    let controller := "/ws/protected/modules/shop/controllers/CartController.php".toList
    let store := Store.build [(controller, "".toList)] []
    ofView .stock (store.fileSystem ['/']) (some "/ws".toList) path = .ok ⟨controller, none⟩
      ∧ ofView .stock (store.fileSystem ['/']) none path = .error (.controllerMissing
        "CartController".toList "/ws/protected/modules/shop/themes/shop/controllers".toList) := by
  decide +kernel

end Controller
end YiiNavigator
