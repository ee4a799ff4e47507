import YiiNavigator.Proofs.Controller.Lookup
import YiiNavigator.Proofs.Controller.Naming
import YiiNavigator.Proofs.Convention
import YiiNavigator.Proofs.FileSystem.Growth
import YiiNavigator.Proofs.View.Roots

/-!
# From an action to its views and back

The views that an action renders by bare names lie in the directory of its controller's id. From
there the same controller is found, and in it the first action that renders the view.
-/

namespace YiiNavigator

open YiiNavigator.Path

/-- The file of a controller with a given stem. -/
def Convention.controllerFile (conv : Convention) (root : Text) (module : Option Text)
    (stem : Text) : Text :=
  joinText (conv.controllersDirectory root module) (stem ++ conv.controllerEnding)

/-- The names that lead from the root to the views of a controller. -/
def Convention.viewTrail (conv : Convention) (module : Option Text) (stem : Text) : List Text :=
  conv.trail module ++ [conv.viewsDir, Text.lowerFirst stem]

namespace Controller

variable {conv : Convention} {module : Option Text} {p : Path} {stem : Text}

/-! ## From the controller to its views -/

section

variable (hconv : conv.IsPlain) (hmodule : conv.IsModule module) (hp : p.IsSettled)
  (hstem : Naming.isStem stem = true)

include hconv hstem in
lemma isPlain_fileName : IsPlain (stem ++ conv.controllerEnding) := by
  have hplain := Naming.isPlain_of_isStem hstem
  have hslash : '/' ∉ stem ++ conv.controllerSuffix := by
    simpa using ⟨hplain.no_slash, hconv.suffix_no_slash⟩
  have hback : '\\' ∉ stem ++ conv.controllerSuffix := by
    simpa using ⟨hplain.no_backslash, hconv.suffix_no_backslash⟩
  unfold Convention.controllerEnding
  rw [← List.append_assoc]
  exact isPlain_append hslash hback conv.viewExtension_valid

include hconv hstem in
lemma stemOf_fileName :
    stemOf (stem ++ conv.controllerEnding) = stem ++ conv.controllerSuffix := by
  have hplain := Naming.isPlain_of_isStem hstem
  rw [(isPlain_fileName hconv hstem).stemOf, Convention.controllerEnding, ← List.append_assoc]
  exact stem_append (by simp [hplain.ne_nil]) conv.viewExtension_valid

include hconv hstem in
/-- The file of a controller is found along the trail of its module. -/
lemma controllerFile_eq (hmodule : ∀ name ∈ module, IsPlain name) (hp : p.IsClean)
    (hanchor : p.anchor ≠ .relative) :
    conv.controllerFile p.print module stem
      = (p.under (conv.trail module
          ++ [conv.controllersDir, stem ++ conv.controllerEnding])).print := by
  have hunder : (p.under (conv.trail module ++ [conv.controllersDir])).IsClean :=
    hp.under fun name h => (hconv.hasPlainNames.trail_append hmodule
      (List.forall_mem_singleton.2 hconv.hasPlainNames.controllersDir) name h).isName
  unfold Convention.controllerFile Convention.controllersDirectory
  rw [hconv.hasPlainNames.directory hmodule hp hanchor hconv.hasPlainNames.controllersDir,
    hunder.joinText hanchor (isPlain_fileName hconv hstem).isName, under_under, List.append_assoc]
  rfl

include hconv hmodule hstem in
lemma isPlain_of_mem_viewTrail : ∀ name ∈ conv.viewTrail module stem, IsPlain name := by
  have hid : IsPlain (Text.lowerFirst stem) :=
    Naming.isPlain_of_isStem (Naming.isStem_lowerFirst hstem)
  exact hconv.hasPlainNames.trail_append hmodule.plain
    (List.forall_mem_cons.2 ⟨hconv.hasPlainNames.viewsDir, List.forall_mem_singleton.2 hid⟩)

include hconv hstem in
/-- The id of a controller is its stem, with a small letter in front. -/
lemma controllerId?_fileName :
    conv.controllerId? (stem ++ conv.controllerEnding) = some (Text.lowerFirst stem) := by
  have hsuffix : conv.controllerSuffix.isSuffixOf (stem ++ conv.controllerSuffix) = true :=
    List.isSuffixOf_iff_suffix.2 (List.suffix_append _ _)
  have hne : (stem ++ conv.controllerSuffix == conv.controllerSuffix) = false := by
    simpa using (Naming.isPlain_of_isStem hstem).ne_nil
  have htake : (stem ++ conv.controllerSuffix).take
      ((stem ++ conv.controllerSuffix).length - conv.controllerSuffix.length) = stem := by
    rw [List.length_append, Nat.add_sub_cancel]
    exact List.take_left
  unfold Convention.controllerId?
  rw [stemOf_fileName hconv hstem]
  dsimp only
  rw [hsuffix, hne, htake]
  rfl

include hconv hmodule hp hstem in
/-- The views of a controller are looked for in the directory of its id. -/
lemma exists_viewRoots :
    ∃ roots, ViewRoots.of? conv p.print (conv.controllerFile p.print module stem) = some roots
      ∧ roots.own = (p.under (conv.viewTrail module stem)).print := by
  have hid : IsPlain (Text.lowerFirst stem) :=
    Naming.isPlain_of_isStem (Naming.isStem_lowerFirst hstem)
  have htrail : ∀ name ∈ conv.trail module ++ [conv.viewsDir], IsPlain name :=
    hconv.hasPlainNames.trail_append hmodule.plain
      (List.forall_mem_singleton.2 hconv.hasPlainNames.viewsDir)
  have hplain : ∀ name ∈ conv.trail module
      ++ conv.controllersDir :: [] ++ [stem ++ conv.controllerEnding], IsPlain name := by
    rw [List.append_assoc]
    exact hconv.hasPlainNames.trail_append hmodule.plain
      (List.forall_mem_cons.2 ⟨hconv.hasPlainNames.controllersDir,
        List.forall_mem_singleton.2 (isPlain_fileName hconv hstem)⟩)
  have hpath : canonical (conv.controllerFile p.print module stem) = (p.under (conv.trail module
      ++ conv.controllersDir :: [] ++ [stem ++ conv.controllerEnding])).print := by
    rw [← (hp.under hplain).canonical, controllerFile_eq hconv hstem hmodule.plain hp.clean
      hp.anchored, List.append_assoc]
    rfl
  have hnoViews : conv.viewsDir ∉ conv.trail module ++ [conv.controllersDir] := by
    rw [List.mem_append, List.mem_singleton, not_or]
    exact ⟨hconv.hasDistinctNames.viewsDir_notMem_trail hmodule,
      hconv.hasDistinctNames.viewsDir_ne.2.1⟩
  rw [ViewRoots.of?_of_controllers hp hpath hplain hconv.hasPlainNames.viewsDir hnoViews
    List.not_mem_nil, controllerId?_fileName hconv hstem]
  refine ⟨_, rfl, ?_⟩
  show joinTexts _ [Text.lowerFirst stem] = _
  rw [(hp.under htrail).joinTexts (List.forall_mem_singleton.2 hid), under_under,
    List.append_assoc]
  rfl

/-! ## From a view to its controller -/

include hstem in
/-- The id of a controller leads to its file. For a stem with a small letter in front, the file of
the stem with a capital would come first. -/
lemma file?_eq (fs : FileSystem) {root : Text}
    (hpresent : fs.has (conv.controllerFile root module stem) = true)
    (hcapital : stem.head?.any Char.isLower = true →
      fs.has (conv.controllerFile root module (Text.upperFirst stem)) = false) :
    file? conv fs (conv.controllersDirectory root module) (Text.lowerFirst stem)
      = some (conv.controllerFile root module stem) := by
  have hcandidates : candidates conv (conv.controllersDirectory root module)
      (Text.lowerFirst stem)
      = [conv.controllerFile root module (Text.upperFirst stem),
        conv.controllerFile root module (Text.lowerFirst stem)] := by
    unfold candidates
    rw [Naming.className_lowerFirst hstem, Naming.lowerClassName_lowerFirst hstem]
    rfl
  unfold file?
  rw [hcandidates]
  -- the spelling with a capital is asked for first
  by_cases hsmall : stem.head?.any Char.isLower = true
  · rw [List.find?_cons_of_neg (by rw [hcapital hsmall]; decide),
      Naming.lowerFirst_of_isLower hstem hsmall, List.find?_cons_of_pos hpresent]
  · rw [Naming.upperFirst_of_not_isLower hstem hsmall, List.find?_cons_of_pos hpresent]

include hconv hmodule hp hstem in
/-- A view in the directory of an id belongs to the controller of that id. -/
lemma ofView_eq {fs : FileSystem} {view file : Text} (hid : Text.lowerFirst stem ≠ conv.viewsDir)
    (hview : IsPlain view)
    (hfile : file? conv fs (conv.controllersDirectory p.print module) (Text.lowerFirst stem)
      = some file) :
    ofView conv fs (some p.print)
        (p.under (conv.viewTrail module stem ++ [view ++ conv.viewExtension])).print
      = .ok (matchIn fs file fun text => actionForView? conv text (View.unmarked view)) := by
  have hname : IsPlain (view ++ conv.viewExtension) :=
    hview.append_extension conv.viewExtension_valid
  have hplain : ∀ name ∈ conv.viewTrail module stem ++ [view ++ conv.viewExtension],
      IsPlain name :=
    List.forall_mem_append.2
      ⟨isPlain_of_mem_viewTrail hconv hmodule hstem, List.forall_mem_singleton.2 hname⟩
  have hplace : Place.of (some p.print)
      (p.under (conv.viewTrail module stem ++ [view ++ conv.viewExtension])).print
      = ⟨p.parts, conv.trail module ++ conv.viewsDir :: [Text.lowerFirst stem]
        ++ [view ++ conv.viewExtension]⟩ := Place.of_under hp hplain
  have hmodule? : Place.lastModule? conv (conv.trail module ++ conv.viewsDir
      :: [Text.lowerFirst stem] ++ [view ++ conv.viewExtension]) = module := by
    have hviews : conv.HasNoModules [module.getD conv.protectedDir, conv.viewsDir] :=
      List.isChain_pair.2 fun hpair => hconv.hasDistinctNames.viewsDir_ne.2.2 hpair.2
    rw [List.append_assoc]
    exact Place.lastModule?_append_trail [] hconv.hasDistinctNames List.isChain_nil
      (List.cons_ne_nil _ _) hviews
  have hstemOf : stemOf (view ++ conv.viewExtension) = view := by
    rw [hname.stemOf, stem_append hview.ne_nil conv.viewExtension_valid]
  rw [ofView_eq_ofNames hplace (by simpa using Ne.symm hid),
    directoryOfView_some conv hp.print_ne_nil]
  unfold Place.module? ofNames
  dsimp only
  rw [hmodule?, hfile, hstemOf]

end

/-! ## From a view to its action -/

lemma spelling_of_mem_renderCalls {text : Text} {action : Action} {call : RenderCall}
    (h : call ∈ action.renderCalls text) :
    call.target.spelling = ViewSpelling.ofName call.target.name := by
  obtain ⟨o, -, rfl⟩ := List.mem_map.1 h
  rfl

/-- An action renders the view of each of its calls, by the name without an underscore. -/
lemma renders_unmarked {text : Text} {action : Action} {call : RenderCall}
    (hcall : call ∈ action.renderCalls text) :
    renders text (View.unmarked call.target.name) action = true := by
  refine List.any_eq_true.2 ⟨call, hcall, ?_⟩
  rw [Bool.or_eq_true, beq_iff_eq, beq_iff_eq]
  exact View.eq_unmarked_or call.target.name

/-- The view of a call in a declared action has a first action that renders it, whose name is found
for the view. -/
lemma exists_actionForView? {text : Text} {action : Action}
    (haction : action ∈ Action.catalog conv text) {call : RenderCall}
    (hcall : call ∈ action.renderCalls text) :
    ∃ first, (Action.catalog conv text).find? (renders text (View.unmarked call.target.name))
        = some first
      ∧ actionForView? conv text (View.unmarked call.target.name) = some first.name := by
  have hfound : ((Action.catalog conv text).find?
      (renders text (View.unmarked call.target.name))).isSome = true :=
    List.find?_isSome.2 ⟨action, haction, renders_unmarked hcall⟩
  obtain ⟨first, hfirst⟩ := Option.isSome_iff_exists.1 hfound
  refine ⟨first, hfirst, ?_⟩
  unfold actionForView?
  dsimp only
  rw [hfirst]
  rfl

/-! ## There and back -/

/-- The views that an action of a controller renders by bare names without slashes lead back to the
controller, and to the first of its actions that renders the view, underscore or not. -/
theorem ofView_ofAction {store : Store} {root text name : Text} (hconv : conv.IsPlain)
    (hroot : IsRoot root) (hmodule : conv.IsModule module) (hstem : Naming.isStem stem = true)
    (hid : Text.lowerFirst stem ≠ conv.viewsDir)
    (htext : store.readText (conv.controllerFile root module stem) = .ok text)
    (hcapital : stem.head?.any Char.isLower = true →
      store.has (conv.controllerFile root module (Text.upperFirst stem)) = false)
    (hname : name ∈ (Action.catalog conv text).map (·.name)) (cwd : Text) :
    ∃ views, View.ofAction conv (store.fileSystem cwd) root (conv.controllerFile root module stem)
        text (.named name) = .ok views
      ∧ ∀ view ∈ views, view.target.spelling = .bare → '/' ∉ view.target.name →
        '\\' ∉ view.target.name →
        ∃ first, (Action.catalog conv text).find? (renders text (View.unmarked view.target.name))
            = some first
          ∧ ofView conv (store.fileSystem cwd) (some root) view.path
            = .ok ⟨conv.controllerFile root module stem, some first.name⟩ := by
  obtain ⟨p, hp, rfl⟩ := hroot.exists_settled
  obtain ⟨roots, hroots, hown⟩ := exists_viewRoots hconv hmodule hp hstem
  obtain ⟨views, hviews, hcalls⟩ := View.exists_ofAction (store.fileSystem cwd) hroots hname
  refine ⟨views, hviews, fun view hview hbare hslash hback => ?_⟩
  obtain ⟨action, haction, call, hcall, hresolve⟩ := hcalls view hview
  have htarget : view.target = call.target := by
    obtain ⟨path, -, rfl⟩ := View.resolve_eq_ok_iff.1 hresolve
    rfl
  -- the file of the controller exists, since its text could be read
  have hpresent : store.has (conv.controllerFile p.print module stem) = true := by
    unfold Store.readText at htext
    split at htext
    · rename_i content hcontent
      unfold Store.has
      rw [hcontent]
      rfl
    · cases htext
  rw [htarget] at hbare hslash hback ⊢
  rw [spelling_of_mem_renderCalls hcall] at hbare
  obtain ⟨viewStem, hplain, hunmarked, hpath⟩ := View.exists_file_of_bare
    (hp.under (isPlain_of_mem_viewTrail hconv hmodule hstem)) hown hresolve hbare hslash hback
  obtain ⟨first, hfirst, hfound⟩ := exists_actionForView? haction hcall
  have hfile := file?_eq hstem (store.fileSystem cwd) hpresent hcapital
  refine ⟨first, hfirst, ?_⟩
  rw [hpath, under_under, ofView_eq hconv hmodule hp hstem hid hplain hfile, hunmarked]
  have hread : (store.fileSystem cwd).readText (conv.controllerFile p.print module stem)
      = .ok text := htext
  unfold matchIn
  rw [hread]
  dsimp only
  rw [hfound]

/-- In a module, a partial view leads back to a controller whose file name begins with a small
letter. -/
theorem ofView_ofAction_smallLetter :
    let text := "<?php\nfunction actionIndex() \x7b\n $this->renderPartial(\"item\");\n\x7d".toList
    let file := "/w/protected/modules/shop/controllers/cartController.php".toList
    let view := "/w/protected/modules/shop/views/cart/_item.php".toList
    let store := Store.build [(file, text)] []
    View.ofAction .stock (store.fileSystem ['/']) "/w".toList file text
          (.named "actionIndex".toList)
        = .ok [⟨.ofName "item".toList true, view, false⟩]
      ∧ ofView .stock (store.fileSystem ['/']) (some "/w".toList) view
        = .ok ⟨file, some "actionIndex".toList⟩ := by
  intro text file view store
  have hconv : Convention.stock.IsPlain :=
    ⟨by decide, by decide, by decide, by decide⟩
  have hroot : IsRoot "/w".toList := by
    decide +kernel
  have hmodule : Convention.stock.IsModule (some "shop".toList) := by
    rintro name ⟨⟩
    decide
  have hstem : Naming.isStem "cart".toList = true := by
    decide
  have hid : Text.lowerFirst "cart".toList ≠ Convention.stock.viewsDir := by
    decide
  have hfile : Convention.stock.controllerFile "/w".toList (some "shop".toList) "cart".toList
      = file := by
    decide +kernel
  have htext : store.readText
      (Convention.stock.controllerFile "/w".toList (some "shop".toList) "cart".toList)
      = .ok text := by
    decide +kernel
  have hcapital : store.has (Convention.stock.controllerFile "/w".toList (some "shop".toList)
      (Text.upperFirst "cart".toList)) = false := by
    decide +kernel
  have hname : "actionIndex".toList ∈ (Action.catalog .stock text).map (·.name) := by
    decide +kernel
  have hviews : View.ofAction .stock (store.fileSystem ['/']) "/w".toList file text
      (.named "actionIndex".toList) = .ok [⟨.ofName "item".toList true, view, false⟩] := by
    decide +kernel
  have hfirst : ((Action.catalog .stock text).find? (renders text "item".toList)).map (·.name)
      = some "actionIndex".toList := by
    decide +kernel
  obtain ⟨views, hresult, hback⟩ :=
    ofView_ofAction hconv hroot hmodule hstem hid htext (fun _ => hcapital) hname ['/']
  rw [hfile] at hresult hback
  rw [hviews] at hresult
  cases hresult
  obtain ⟨first, hfound, hview⟩ :=
    hback _ List.mem_cons_self (by decide) (by decide) (by decide)
  have hindex : first.name = "actionIndex".toList := by
    have hfound' : (Action.catalog .stock text).find? (renders text "item".toList) = some first :=
      hfound
    rw [hfound'] at hfirst
    exact Option.some.inj hfirst
  rw [hindex] at hview
  exact ⟨hviews, hview⟩

end Controller
end YiiNavigator
