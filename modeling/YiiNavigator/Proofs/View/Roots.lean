import YiiNavigator.Proofs.Convention
import YiiNavigator.Proofs.Path.Below
import YiiNavigator.Proofs.Text.Case
import YiiNavigator.Proofs.Workspace

/-!
# The views of a controller, and of the files in them

A controller keeps the directories that lead to it in its own views. For a file in these views the
own views are those of the first directory below the last views directory. Both find the same module
and the same views of the application; the own views are the same when the controller lies directly
in a controllers directory.
-/

namespace YiiNavigator

open YiiNavigator.Path

variable {conv : Convention} {module : Option Text} {p : Path} {root path file id view : Text}
  {front below directories : List Text}

/-! ## The id of a controller -/

/-- The id of the controller in a file of a given name. -/
def Convention.controllerId? (conv : Convention) (file : Text) : Option Text :=
  let name := stemOf file
  if !conv.controllerSuffix.isSuffixOf name || name == conv.controllerSuffix then none
  else some (Text.lowerFirst (name.take (name.length - conv.controllerSuffix.length)))

/-- The id of a controller is a plain name, unless it has a meaning of its own in a path. -/
lemma isPlain_of_controllerId? (hfile : IsPlain file) (h : conv.controllerId? file = some id)
    (hhere : id ≠ here) (hup : id ≠ up) : IsPlain id := by
  unfold Convention.controllerId? at h
  rw [hfile.stemOf] at h
  dsimp only at h
  split at h
  · cases h
  · rename_i hsuffix
    rw [Bool.or_eq_true, not_or, Bool.not_eq_true', Bool.not_eq_false, beq_iff_eq] at hsuffix
    obtain ⟨base, hbase⟩ := List.isSuffixOf_iff_suffix.1 hsuffix.1
    have htake : (stem file).take ((stem file).length - conv.controllerSuffix.length) = base := by
      rw [← hbase, List.length_append, Nat.add_sub_cancel]
      exact List.take_left
    have hne : base ≠ [] := by
      intro hnil
      rw [hnil] at hbase
      exact hsuffix.2 hbase.symm
    have hsubset : base ⊆ file := by
      intro c hc
      apply (isPrefix_stem file).subset
      rw [← hbase]
      exact List.mem_append_left _ hc
    rw [htake] at h
    obtain rfl := Option.some.inj h
    refine ⟨Text.lowerFirst_ne_nil hne, ?_, ?_, hhere, hup⟩
    · exact Text.notMem_lowerFirst (by decide) (by decide) fun hc => hfile.no_slash (hsubset hc)
    · exact Text.notMem_lowerFirst (by decide) (by decide) fun hc => hfile.no_backslash (hsubset hc)

namespace ViewRoots

/-- The views of the files of a module, given their own ones. -/
def within (conv : Convention) (root : Text) (module : Option Text) (own : Text) : ViewRoots :=
  ⟨own, conv.viewsDirectory root none, module.map fun m => conv.viewsDirectory root (some m)⟩

@[simp] lemma own_within (conv : Convention) (root : Text) (module : Option Text) (own : Text) :
    (within conv root module own).own = own :=
  rfl

/-! ## The views of a view file -/

lemma ofViewFile_eq (hp : p.IsSettled)
    (hplain : ∀ name ∈ front ++ conv.viewsDir :: below ++ [file], IsPlain name) :
    ofViewFile ⟨p.parts, front ++ conv.viewsDir :: below ++ [file]⟩ front.length
      = (p.under (front ++ conv.viewsDir :: below.take 1)).print := by
  have hfirst : ∀ name ∈ front ++ conv.viewsDir :: below.take 1, IsPlain name := by
    intro name h
    have hsublist := ((List.take_sublist 1 below).cons_cons conv.viewsDir).append_left front
    exact hplain name (List.mem_append_left _ (hsublist.subset h))
  have htake : (front ++ conv.viewsDir :: below ++ [file]).take (front.length + 1)
      = front ++ [conv.viewsDir] := by
    rw [List.append_assoc, List.cons_append, List.append_cons]
    exact List.take_left' (by simp)
  rw [← hp.joinAll hfirst]
  unfold ofViewFile
  dsimp only
  rw [htake, Place.drop_length_succ]
  -- a file directly in the views directory has no directory of its own there
  rcases below with - | ⟨first, rest⟩
  · rw [if_neg (by simp)]
    simp
  · rw [if_pos (by simp)]
    simp

/-- The own views of a file below a views directory are those of the first directory in it. -/
lemma of?_of_views (hp : p.IsSettled)
    (hpath : canonical path = (p.under (front ++ conv.viewsDir :: below ++ [file])).print)
    (hplain : ∀ name ∈ front ++ conv.viewsDir :: below ++ [file], IsPlain name)
    (hviews : conv.viewsDir ∉ below) :
    of? conv p.print path = some (within conv p.print
      (Place.lastModule? conv (front ++ conv.viewsDir :: below ++ [file]))
      (p.under (front ++ conv.viewsDir :: below.take 1)).print) := by
  unfold of?
  rw [Place.of_eq hp hpath hplain]
  dsimp only
  rw [Place.lastDirectory?_append_cons hviews]
  dsimp only
  rw [ofViewFile_eq hp hplain]
  rfl

/-! ## The views of a controller -/

lemma ofController?_eq (hp : p.IsSettled) (hfront : ∀ name ∈ front ++ [conv.viewsDir], IsPlain name)
    (below : List Text) (file : Text) :
    ofController? conv ⟨p.parts, front ++ conv.controllersDir :: below ++ [file]⟩ front.length
      = (conv.controllerId? file).map fun id =>
        joinTexts (p.under (front ++ [conv.viewsDir])).print (below ++ [id]) := by
  have hlast : (front ++ conv.controllersDir :: below ++ [file]).getLast?.getD [] = file := by
    rw [List.getLast?_concat]
    rfl
  unfold ofController? Convention.controllerId?
  dsimp only
  rw [hlast, Place.take_length, Place.drop_length_succ, List.dropLast_concat, List.append_assoc,
    hp.joinAll hfront]
  split
  · rfl
  · rfl

/-- The own views of a controller are beside the controllers directory, below the directories that
lead to the controller. -/
lemma of?_of_controllers (hp : p.IsSettled)
    (hpath : canonical path = (p.under (front ++ conv.controllersDir :: below ++ [file])).print)
    (hplain : ∀ name ∈ front ++ conv.controllersDir :: below ++ [file], IsPlain name)
    (hviewsDir : IsPlain conv.viewsDir)
    (hviews : conv.viewsDir ∉ front ++ conv.controllersDir :: below)
    (hcontrollers : conv.controllersDir ∉ below) :
    of? conv p.print path = (conv.controllerId? file).map fun id => within conv p.print
      (Place.lastModule? conv (front ++ conv.controllersDir :: below ++ [file]))
      (joinTexts (p.under (front ++ [conv.viewsDir])).print (below ++ [id])) := by
  have hfront : ∀ name ∈ front ++ [conv.viewsDir], IsPlain name := by
    refine List.forall_mem_append.2 ⟨fun name h => ?_, List.forall_mem_singleton.2 hviewsDir⟩
    exact hplain name (List.mem_append_left _ (List.mem_append_left _ h))
  unfold of?
  rw [Place.of_eq hp hpath hplain]
  dsimp only
  rw [Place.lastDirectory?_of_notMem hviews, Place.lastDirectory?_append_cons hcontrollers]
  dsimp only
  rw [ofController?_eq hp hfront, Option.map_map]
  rfl

end ViewRoots

/-! ## The last controllers directory -/

/-- Whether the names from a controllers directory on are some in front of the last controllers
directory, that directory and some below it. -/
structure Convention.IsCut (conv : Convention) (directories outer inner : List Text) : Prop where
  names : conv.controllersDir :: directories = outer ++ conv.controllersDir :: inner
  last : conv.controllersDir ∉ inner

namespace Convention

variable {outer inner : List Text}

lemma exists_isCut (conv : Convention) (directories : List Text) :
    ∃ outer inner, conv.IsCut directories outer inner := by
  have hfirst : conv.controllersDir ∈ conv.controllersDir :: directories := List.mem_cons_self
  obtain ⟨outer, inner, hnames, hlast⟩ := Text.exists_last hfirst
  exact ⟨outer, inner, hnames, hlast⟩

lemma IsCut.plain (h : conv.IsCut directories outer inner) (hconv : conv.HasPlainNames)
    (hplain : ∀ name ∈ directories, Path.IsPlain name) :
    (∀ name ∈ outer, Path.IsPlain name) ∧ ∀ name ∈ inner, Path.IsPlain name := by
  have hall : ∀ name ∈ outer ++ conv.controllersDir :: inner, Path.IsPlain name := by
    rw [← h.names]
    exact List.forall_mem_cons.2 ⟨hconv.controllersDir, hplain⟩
  obtain ⟨houter, hinner⟩ := List.forall_mem_append.1 hall
  exact ⟨houter, (List.forall_mem_cons.1 hinner).2⟩

/-- Names among which there is no controllers directory lie all below the one in front of them. -/
lemma IsCut.eq_of_notMem (h : conv.IsCut directories outer inner)
    (hnone : conv.controllersDir ∉ directories) : outer = [] ∧ inner = directories := by
  rcases outer with - | ⟨first, outer⟩
  · exact ⟨rfl, (List.cons.inj h.names).2.symm⟩
  · refine absurd ?_ hnone
    rw [(List.cons.inj h.names).2]
    exact List.mem_append_right _ List.mem_cons_self

/-- The names that lead to the views of a controller are plain. -/
lemma IsCut.isPlain_own (h : conv.IsCut directories outer inner) (hconv : conv.HasPlainNames)
    (hmodule : ∀ name ∈ module, Path.IsPlain name)
    (hplain : ∀ name ∈ directories, Path.IsPlain name) (hid : Path.IsPlain id) :
    ∀ name ∈ conv.trail module ++ outer ++ conv.viewsDir :: (inner ++ [id]),
      Path.IsPlain name := by
  obtain ⟨houter, hinner⟩ := h.plain hconv hplain
  have hbelow : ∀ name ∈ conv.viewsDir :: (inner ++ [id]), Path.IsPlain name :=
    List.forall_mem_cons.2 ⟨hconv.viewsDir,
      List.forall_mem_append.2 ⟨hinner, List.forall_mem_singleton.2 hid⟩⟩
  rw [List.append_assoc]
  exact hconv.trail_append hmodule (List.forall_mem_append.2 ⟨houter, hbelow⟩)

lemma IsCut.viewsDir_notMem (h : conv.IsCut directories outer inner)
    (hdistinct : conv.HasDistinctNames) (hviews : conv.viewsDir ∉ directories) :
    conv.viewsDir ∉ outer ++ conv.controllersDir :: inner := by
  rw [← h.names]
  exact List.not_mem_cons_of_ne_of_not_mem hdistinct.viewsDir_ne.2.1 hviews

/-- No module begins below a trail to the last controllers directory, nor where another directory
stands instead of it. -/
lemma IsCut.hasNoModules (h : conv.IsCut directories outer inner)
    (hdistinct : conv.HasDistinctNames) (hmodules : conv.HasNoModules directories) {name : Text}
    (hprotected : name ≠ conv.protectedDir) (hne : name ≠ conv.modulesDir) (first : Text) :
    conv.HasNoModules (first :: (outer ++ name :: inner)) := by
  have hcontrollers : conv.controllersDir ≠ conv.protectedDir ∧
      conv.controllersDir ≠ conv.modulesDir :=
    ⟨hdistinct.protectedDir_ne.2.1.symm, hdistinct.controllersDir_ne_modulesDir⟩
  have hall : conv.HasNoModules (first :: outer ++ conv.controllersDir :: inner) := by
    rw [List.cons_append, ← h.names]
    exact (hasNoModules_append_cons [first] hcontrollers.1 hcontrollers.2).2
      ⟨List.isChain_singleton first, hmodules⟩
  exact (hasNoModules_append_cons (first :: outer) hprotected hne).2
    ((hasNoModules_append_cons (first :: outer) hcontrollers.1 hcontrollers.2).1 hall)

end Convention

namespace ViewRoots

/-! ## There and back -/

section

variable {outer inner : List Text} (hconv : conv.HasPlainNames)
  (hdistinct : conv.HasDistinctNames) (hmodule : conv.IsModule module) (hp : p.IsSettled)
  (hcut : conv.IsCut directories outer inner) (hmodules : conv.HasNoModules directories)
  (hviews : conv.viewsDir ∉ directories)

lemma take_one_concat (names : List Text) (last : Text) :
    (names ++ [last]).take 1 = [names.head?.getD last] := by
  rcases names with - | ⟨first, rest⟩
  · rfl
  · rfl

include hconv hmodule hp hcut in
/-- The path of a controller, by the names around the last controllers directory. -/
lemma canonical_controller (hplain : ∀ name ∈ directories ++ [file], IsPlain name)
    (hpath : canonical path
      = joinTexts (conv.controllersDirectory p.print module) (directories ++ [file])) :
    canonical path = (p.under
      (conv.trail module ++ outer ++ conv.controllersDir :: inner ++ [file])).print := by
  have htrail : ∀ name ∈ conv.trail module ++ [conv.controllersDir], IsPlain name :=
    hconv.trail_append hmodule.plain (List.forall_mem_singleton.2 hconv.controllersDir)
  rw [hpath, Convention.controllersDirectory,
    hconv.directory hmodule.plain hp.clean hp.anchored hconv.controllersDir,
    (hp.under htrail).joinTexts hplain, under_under, List.append_assoc (conv.trail module) outer,
    ← hcut.names]
  simp

include hdistinct hcut hmodules in
/-- The module of a controller is that of its trail. -/
lemma lastModule?_controller (file : Text) :
    Place.lastModule? conv (conv.trail module ++ outer ++ conv.controllersDir :: inner ++ [file])
      = module := by
  have hnone := hcut.hasNoModules hdistinct hmodules hdistinct.protectedDir_ne.2.1.symm
    hdistinct.controllersDir_ne_modulesDir (module.getD conv.protectedDir)
  rw [List.append_assoc (conv.trail module), List.append_assoc (conv.trail module)]
  refine Place.lastModule?_append_trail [] hdistinct List.isChain_nil (by simp) ?_
  rw [← List.cons_append, List.dropLast_concat]
  exact hnone.dropLast

include hdistinct hcut hmodules in
/-- The module of a file in the views of a controller is that of the controller. -/
lemma lastModule?_ownView (id file : Text) :
    Place.lastModule? conv
        (conv.trail module ++ outer ++ conv.viewsDir :: (inner ++ [id]) ++ [file]) = module := by
  have hnone := hcut.hasNoModules hdistinct hmodules hdistinct.viewsDir_ne.1
    hdistinct.viewsDir_ne.2.2 (module.getD conv.protectedDir)
  rw [List.append_assoc (conv.trail module), List.append_assoc (conv.trail module)]
  refine Place.lastModule?_append_trail [] hdistinct List.isChain_nil (by simp) ?_
  rw [← List.cons_append, List.dropLast_concat, ← List.cons_append, ← List.cons_append,
    ← List.append_assoc, List.dropLast_concat]
  exact hnone

include hconv hdistinct hmodule hp hcut hmodules hviews in
/-- The views of a controller keep the directories between it and the last controllers directory. -/
lemma of?_of_controller {roots : ViewRoots}
    (hplain : ∀ name ∈ directories ++ [file], IsPlain name)
    (hpath : canonical path
      = joinTexts (conv.controllersDirectory p.print module) (directories ++ [file]))
    (hid : ∀ id ∈ conv.controllerId? file, id ≠ here ∧ id ≠ up)
    (hroots : of? conv p.print path = some roots) :
    ∃ id, conv.controllerId? file = some id ∧ IsPlain id ∧ roots = within conv p.print module
      (p.under (conv.trail module ++ outer ++ conv.viewsDir :: (inner ++ [id]))).print := by
  obtain ⟨hdirectories, hfile⟩ := List.forall_mem_append.1 hplain
  have hnames : ∀ name ∈ conv.trail module ++ outer ++ conv.controllersDir :: inner ++ [file],
      IsPlain name := by
    rw [List.append_assoc (conv.trail module) outer, ← hcut.names, List.append_assoc]
    exact hconv.trail_append hmodule.plain (List.forall_mem_cons.2 ⟨hconv.controllersDir, hplain⟩)
  have hnoViews : conv.viewsDir ∉ conv.trail module ++ outer ++ conv.controllersDir :: inner := by
    rw [List.append_assoc, List.mem_append, not_or]
    exact ⟨hdistinct.viewsDir_notMem_trail hmodule, hcut.viewsDir_notMem hdistinct hviews⟩
  rw [of?_of_controllers hp (canonical_controller hconv hmodule hp hcut hplain hpath) hnames
    hconv.viewsDir hnoViews hcut.last,
    lastModule?_controller hdistinct hcut hmodules file] at hroots
  obtain ⟨id, hsome, rfl⟩ := Option.map_eq_some_iff.1 hroots
  have hplainId : IsPlain id := isPlain_of_controllerId? (List.forall_mem_singleton.1 hfile) hsome
    (hid id hsome).1 (hid id hsome).2
  have hown := hcut.isPlain_own hconv hmodule.plain hdirectories hplainId
  rw [List.append_cons] at hown
  obtain ⟨hfront, hbelow⟩ := List.forall_mem_append.1 hown
  refine ⟨id, hsome, hplainId, ?_⟩
  rw [(hp.under hfront).joinTexts hbelow, under_under, ← List.append_cons]

include hconv hdistinct hmodule hp hcut hmodules hviews in
/-- The own views of a file in the views of a controller are those of the first directory that leads
to the controller from the last controllers directory. -/
lemma of?_of_ownView (hdirectories : ∀ name ∈ directories, IsPlain name) (hid : IsPlain id)
    (hne : id ≠ conv.viewsDir) (hview : IsPlain view) :
    of? conv p.print
        (p.under (conv.trail module ++ outer ++ conv.viewsDir :: (inner ++ [id]) ++ [view])).print
      = some (within conv p.print module (p.under
        (conv.trail module ++ outer ++ [conv.viewsDir, inner.head?.getD id])).print) := by
  have hnames : ∀ name ∈ conv.trail module ++ outer ++ conv.viewsDir :: (inner ++ [id]) ++ [view],
      IsPlain name :=
    List.forall_mem_append.2 ⟨hcut.isPlain_own hconv hmodule.plain hdirectories hid,
      List.forall_mem_singleton.2 hview⟩
  have hnoViews : conv.viewsDir ∉ inner ++ [id] := by
    rw [List.mem_append, List.mem_singleton, not_or]
    exact ⟨fun h => hcut.viewsDir_notMem hdistinct hviews
      (List.mem_append_right _ (List.mem_cons_of_mem _ h)), hne.symm⟩
  rw [of?_of_views hp (hp.under hnames).canonical hnames hnoViews,
    lastModule?_ownView hdistinct hcut hmodules id view, take_one_concat]

end

/-- **From a controller to its own views.** The files in the views of a controller have the views of
the application and of the module that the controller has. Their own views are those of the first
directory that leads to the controller from the last controllers directory, or of the controller if
it lies directly in that directory, and only then are they those of the controller. -/
theorem of?_ownView {roots : ViewRoots} (hconv : conv.HasPlainNames)
    (hdistinct : conv.HasDistinctNames) (hroot : IsRoot root) (hmodule : conv.IsModule module)
    (hplain : ∀ name ∈ directories ++ [file], IsPlain name)
    (hpath : canonical path
      = joinTexts (conv.controllersDirectory root module) (directories ++ [file]))
    (hviews : conv.viewsDir ∉ directories) (hmodules : conv.HasNoModules directories)
    (hroots : of? conv root path = some roots)
    (hid : ∀ id ∈ conv.controllerId? file, id ≠ conv.viewsDir ∧ id ≠ here ∧ id ≠ up)
    (hview : IsPlain view) :
    ∃ outer inner id, conv.IsCut directories outer inner ∧ conv.controllerId? file = some id
      ∧ roots.own = joinTexts root (conv.trail module ++ outer ++ conv.viewsDir :: (inner ++ [id]))
      ∧ of? conv root (roots.own ++ '/' :: view) = some { roots with
          own := joinTexts root
            (conv.trail module ++ outer ++ [conv.viewsDir, inner.head?.getD id]) }
      ∧ (of? conv root (roots.own ++ '/' :: view) = some roots ↔ inner = []) := by
  obtain ⟨p, hp, rfl⟩ := hroot.exists_settled
  have hdirectories : ∀ name ∈ directories, IsPlain name := fun name h =>
    hplain name (List.mem_append_left _ h)
  obtain ⟨outer, inner, hcut⟩ := conv.exists_isCut directories
  obtain ⟨id, hsome, hidPlain, rfl⟩ := of?_of_controller hconv hdistinct hmodule hp hcut hmodules
    hviews hplain hpath (fun id h => (hid id h).2) hroots
  have hown := hcut.isPlain_own hconv hmodule.plain hdirectories hidPlain
  have hfirst : ∀ name ∈ conv.trail module ++ outer ++ [conv.viewsDir, inner.head?.getD id],
      IsPlain name := by
    intro name h
    rw [← take_one_concat] at h
    apply hown
    exact (((List.take_sublist 1 _).cons_cons conv.viewsDir).append_left _).subset h
  have hne : (p.under (conv.trail module ++ outer ++ conv.viewsDir :: (inner ++ [id]))).segments
      ≠ [] :=
    List.append_ne_nil_of_right_ne_nil _
      (List.append_ne_nil_of_right_ne_nil _ (List.cons_ne_nil _ _))
  have hresult := of?_of_ownView hconv hdistinct hmodule hp hcut hmodules hviews hdirectories
    hidPlain (hid id hsome).1 hview
  rw [← under_under, ← (hp.under hown).append_slash hne] at hresult
  refine ⟨outer, inner, id, hcut, hsome, (hp.joinTexts hown).symm, ?_, ?_⟩
  · rw [hp.joinTexts hfirst]
    exact hresult
  · rw [own_within, hresult, Option.some_inj]
    constructor
    · intro h
      have hnames := (hp.under hfirst).clean.under_inj (hp.under hown).clean
        (congrArg ViewRoots.own h)
      have hlength := congrArg List.length (List.append_cancel_left hnames)
      simpa using hlength
    · rintro rfl
      rfl

/-- A controller directly in the controllers directory of a module has the directories of the files
in its views. The files in the views of a controller in a directory below have that directory's
views for their own. -/
theorem of?_ownView_cart_user :
    let cart := "/ws/protected/modules/shop/controllers/CartController.php".toList
    let user := "/ws/protected/controllers/admin/UserController.php".toList
    let ofCart : ViewRoots := ⟨"/ws/protected/modules/shop/views/cart".toList,
      "/ws/protected/views".toList, some "/ws/protected/modules/shop/views".toList⟩
    let ofUser : ViewRoots := ⟨"/ws/protected/views/admin/user".toList,
      "/ws/protected/views".toList, none⟩
    of? .stock "/ws".toList cart = some ofCart
      ∧ of? .stock "/ws".toList (ofCart.own ++ '/' :: "index.php".toList) = some ofCart
      ∧ of? .stock "/ws".toList user = some ofUser
      ∧ of? .stock "/ws".toList (ofUser.own ++ '/' :: "index.php".toList)
          = some { ofUser with own := "/ws/protected/views/admin".toList } := by
  intro cart user ofCart ofUser
  have hconv : Convention.stock.HasPlainNames := by
    decide
  have hdistinct : Convention.stock.HasDistinctNames := by
    decide
  have hroot : IsRoot "/ws".toList := by
    decide +kernel
  have hview : IsPlain "index.php".toList := by
    decide
  have hofCart : of? .stock "/ws".toList cart = some ofCart := by
    decide +kernel
  have hofUser : of? .stock "/ws".toList user = some ofUser := by
    decide +kernel
  refine ⟨hofCart, ?_, hofUser, ?_⟩
  · have hmodule : Convention.stock.IsModule (some "shop".toList) := by
      rintro name ⟨⟩
      decide
    have hplain : ∀ name ∈ [] ++ ["CartController.php".toList], IsPlain name := by
      decide
    have hpath : canonical cart = joinTexts (Convention.stock.controllersDirectory "/ws".toList
        (some "shop".toList)) ([] ++ ["CartController.php".toList]) := by
      decide +kernel
    have hid : ∀ id ∈ Convention.stock.controllerId? "CartController.php".toList,
        id ≠ Convention.stock.viewsDir ∧ id ≠ here ∧ id ≠ up := by
      decide +kernel
    obtain ⟨outer, inner, id, hcut, -, -, -, hsame⟩ := of?_ownView hconv hdistinct hroot hmodule
      hplain hpath List.not_mem_nil List.isChain_nil hofCart hid hview
    exact hsame.2 (hcut.eq_of_notMem List.not_mem_nil).2
  · have hmodule : Convention.stock.IsModule none := nofun
    have hplain : ∀ name ∈ ["admin".toList] ++ ["UserController.php".toList], IsPlain name := by
      decide
    have hpath : canonical user = joinTexts
        (Convention.stock.controllersDirectory "/ws".toList none)
        (["admin".toList] ++ ["UserController.php".toList]) := by
      decide +kernel
    have hid : ∀ id ∈ Convention.stock.controllerId? "UserController.php".toList,
        id ≠ Convention.stock.viewsDir ∧ id ≠ here ∧ id ≠ up := by
      decide +kernel
    obtain ⟨outer, inner, id, hcut, -, -, hviews, -⟩ := of?_ownView hconv hdistinct hroot hmodule
      hplain hpath (by decide) (by decide) hofUser hid hview
    obtain ⟨rfl, rfl⟩ := hcut.eq_of_notMem (by decide)
    exact hviews

/-- Below a directory of the controllers directory the own views are lost but for that directory,
and an id with a meaning of its own in a path leads elsewhere. -/
theorem of?_ownView_differs :
    let views := "/ws/protected/views".toList
    let controllers := Convention.stock.controllersDirectory "/ws".toList none
    let inViews (own : String) : Option ViewRoots := some ⟨own.toList, views, none⟩
    of? .stock "/ws".toList (joinTexts controllers ["admin".toList, "UserController.php".toList])
          = inViews "/ws/protected/views/admin/user"
      ∧ of? .stock "/ws".toList "/ws/protected/views/admin/user/index.php".toList
          = inViews "/ws/protected/views/admin"
      ∧ of? .stock "/ws".toList (joinTexts controllers [".Controller.php".toList])
          = inViews "/ws/protected/views/."
      ∧ of? .stock "/ws".toList "/ws/protected/views/./index.php".toList
          = inViews "/ws/protected/views"
      ∧ of? .stock "/ws".toList (joinTexts controllers ["..Controller.php".toList])
          = inViews "/ws/protected/views/.."
      ∧ of? .stock "/ws".toList "/ws/protected/views/../index.php".toList = none := by
  decide +kernel

end ViewRoots
end YiiNavigator
