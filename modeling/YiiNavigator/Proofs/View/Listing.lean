import YiiNavigator.Proofs.Convention
import YiiNavigator.Proofs.FileSystem.History
import YiiNavigator.Proofs.NormalForm
import YiiNavigator.Proofs.Text.Order
import YiiNavigator.View.OfAction

/-!
# The list of the views of an action

The calls in the body of an action say which views are listed: the paths that they lead to, in their
order and each of them once, and with each path the first call that leads to it. The paths are in
normal form, however the names are spelled, so that different ones are those of different files
(`ofAction_listsOnce`).
-/

namespace YiiNavigator

open YiiNavigator.Path

/-! ## Files of a store -/

/-- Whether two paths are those of different files in every store: what is written under one of them
does not change what stands under the other. -/
def Store.AreApart (path path' : Text) : Prop :=
  ∀ (s : Store) (content : Text), (s.addFile path content).textAt? path' = s.textAt? path'

/-- The files of two paths are told apart by the normal forms of the paths. -/
lemma Store.areApart_iff {path path' : Text} :
    AreApart path path' ↔ normalizeText path ≠ normalizeText path' := by
  constructor
  · intro h hsame
    have hwritten : (empty.addFile path []).textAt? path' = some [] := by
      rw [textAt?_addFile, if_pos hsame]
    rw [h empty []] at hwritten
    cases hwritten
  · intro h s content
    rw [textAt?_addFile, if_neg h]

/-! ## Actions by their names -/

namespace Action

variable {conv : Convention} {text name : Text} {action : Action}

lemma exists_named? (h : name ∈ (catalog conv text).map (·.name)) :
    ∃ action, named? conv text name = some action := by
  obtain ⟨declared, hdeclared, hsame⟩ := List.mem_map.1 h
  have hfound : (named? conv text name).isSome = true :=
    List.find?_isSome.2 ⟨declared, hdeclared, beq_iff_eq.2 hsame⟩
  exact Option.isSome_iff_exists.1 hfound

/-- An action is the first one of its name if no earlier one has the name. -/
lemma named?_of_catalog_eq {before after : List Action}
    (hcatalog : catalog conv text = before ++ action :: after)
    (hfirst : ∀ earlier ∈ before, earlier.name ≠ action.name) :
    named? conv text action.name = some action := by
  have hbefore : before.find? (·.name == action.name) = none := by
    rw [List.find?_eq_none]
    intro earlier hearlier
    rw [beq_iff_eq]
    exact hfirst earlier hearlier
  rw [named?, hcatalog, List.find?_append, hbefore, Option.none_or]
  exact List.find?_cons_of_pos (beq_self_eq_true _)

/-- An action whose name no other one has is the first one of its name. -/
lemma named?_of_nodup (h : ((catalog conv text).map (·.name)).Nodup)
    (haction : action ∈ catalog conv text) : named? conv text action.name = some action := by
  obtain ⟨before, after, hcatalog⟩ := List.append_of_mem haction
  refine named?_of_catalog_eq hcatalog fun earlier hearlier hsame => ?_
  rw [hcatalog, List.map_append, List.map_cons] at h
  have hother := (List.nodup_append.1 h).2.2 _ (List.mem_map_of_mem hearlier)
  exact hother _ List.mem_cons_self hsame

end Action

namespace View

variable {conv : Convention} {fs : FileSystem} {roots : ViewRoots} {root path text name : Text}
  {calls : List RenderCall} {call : RenderCall} {view : ViewFile}

/-! ## Where a call leads -/

/-- The path of the file that a call leads to, if it can be resolved. -/
def pathOf? (conv : Convention) (fs : FileSystem) (roots : ViewRoots) (root : Text)
    (call : RenderCall) : Option Text :=
  (resolve conv fs roots root call.target).toOption.map (·.path)

lemma pathOf?_eq_file? (conv : Convention) (fs : FileSystem) (roots : ViewRoots) (root : Text)
    (call : RenderCall) :
    pathOf? conv fs roots root call
      = file? conv fs roots root call.target.name (.ofPartial call.target.isPartial) := by
  unfold pathOf? resolve
  by_cases hname : call.target.name.isEmpty = true
  · rw [if_pos hname, file?, if_pos hname]
    rfl
  · rw [if_neg hname]
    cases file? conv fs roots root call.target.name (.ofPartial call.target.isPartial) <;> rfl

/-- The view of a call is its target with the path that it leads to, and tells whether there is
something under the path. -/
lemma toOption_resolve (conv : Convention) (fs : FileSystem) (roots : ViewRoots) (root : Text)
    (call : RenderCall) :
    (resolve conv fs roots root call.target).toOption
      = (pathOf? conv fs roots root call).map fun path => ⟨call.target, path, fs.has path⟩ := by
  unfold pathOf?
  rcases hview : resolve conv fs roots root call.target with failure | view
  · rfl
  · obtain ⟨path, -, rfl⟩ := resolve_eq_ok_iff.1 hview
    rfl

/-- The path that a call leads to is in normal form. -/
lemma canonical_of_pathOf? (h : pathOf? conv fs roots root call = some path) :
    canonical path = path := by
  rw [pathOf?_eq_file?] at h
  obtain ⟨-, spelled, -, rfl⟩ := file?_eq_some_iff.1 h
  obtain ⟨p, hp, hspelled⟩ := canonical_eq_self_iff.1 (canonical_canonical spelled)
  rw [← hspelled]
  exact canonical_probe fs hp conv.viewExtension_valid _

/-! ## Views without repetitions -/

lemma notMem_of_mem_distinctFrom {seen : List Text} {views : List ViewFile}
    (h : view ∈ distinctFrom seen views) : view.path ∉ seen := by
  induction views generalizing seen with
  | nil => cases h
  | cons first rest ih =>
    unfold distinctFrom at h
    split at h
    · exact ih h
    · rename_i hfirst
      rcases List.mem_cons.1 h with rfl | h
      · rwa [List.elem_iff] at hfirst
      · exact fun hseen => ih h (List.mem_cons_of_mem _ hseen)

/-- The paths that are left are those that have not been seen, without repetitions. -/
lemma map_path_distinctFrom (seen : List Text) (views : List ViewFile) :
    (distinctFrom seen views).map (·.path)
      = ((views.map (·.path)).filter fun path => !seen.elem path).eraseDups := by
  induction views generalizing seen with
  | nil => rfl
  | cons first rest ih =>
    unfold distinctFrom
    rw [List.map_cons]
    split
    · rename_i hfirst
      rw [ih, List.filter_cons_of_neg (by rw [hfirst]; decide)]
    · rename_i hfirst
      have hnew : (!seen.elem first.path) = true := by
        rwa [Bool.not_eq_true', ← Bool.not_eq_true]
      -- a path that is seen from now on is one that equals the first path or was seen before
      have hseen : ∀ path : Text, (!(first.path :: seen).elem path)
          = (!path == first.path && !seen.elem path) := by
        intro path
        rw [List.elem_cons]
        cases path == first.path <;> rfl
      rw [List.filter_cons_of_pos (p := fun path => !seen.elem path) hnew, List.eraseDups_cons,
        List.map_cons, ih, List.filter_filter]
      simp only [hseen]

/-- A view that is left is the first one with its path. -/
lemma find?_of_mem_distinctFrom {seen : List Text} {views : List ViewFile}
    (h : view ∈ distinctFrom seen views) :
    views.find? (fun other => other.path == view.path) = some view := by
  induction views generalizing seen with
  | nil => cases h
  | cons first rest ih =>
    have hnew := notMem_of_mem_distinctFrom h
    unfold distinctFrom at h
    split at h
    · rename_i hfirst
      refine (List.find?_cons_of_neg ?_).trans (ih h)
      rw [beq_iff_eq]
      intro heq
      rw [List.elem_iff, heq] at hfirst
      exact hnew hfirst
    · rcases List.mem_cons.1 h with rfl | h
      · exact List.find?_cons_of_pos (beq_self_eq_true _)
      · refine (List.find?_cons_of_neg ?_).trans (ih h)
        rw [beq_iff_eq]
        intro heq
        exact notMem_of_mem_distinctFrom h (by rw [heq]; exact List.mem_cons_self)

/-! ## The list -/

/-- The views that are listed for the calls of an action. -/
def listed (conv : Convention) (fs : FileSystem) (roots : ViewRoots) (root : Text)
    (calls : List RenderCall) : List ViewFile :=
  distinctFrom [] (calls.filterMap fun call =>
    (resolve conv fs roots root call.target).toOption)

lemma ofAction_eq_ok_iff {selection : Selection} {views : List ViewFile} :
    ofAction conv fs root path text selection = .ok views
      ↔ ∃ action roots, selection.pick conv text = .ok action
        ∧ ViewRoots.of? conv root path = some roots
        ∧ views = listed conv fs roots root (action.renderCalls text) := by
  unfold ofAction listed
  rcases hpick : selection.pick conv text with failure | action
  · constructor
    · intro h
      cases h
    · rintro ⟨action, _, haction, -⟩
      cases haction
  · rcases hroots : ViewRoots.of? conv root path with - | roots
    · constructor
      · intro h
        cases h
      · rintro ⟨_, roots, -, hsome, -⟩
        cases hsome
    · constructor
      · intro h
        cases h
        exact ⟨action, roots, rfl, rfl, rfl⟩
      · rintro ⟨_, _, ⟨⟩, ⟨⟩, rfl⟩
        rfl

lemma map_path_listed (conv : Convention) (fs : FileSystem) (roots : ViewRoots) (root : Text)
    (calls : List RenderCall) :
    (listed conv fs roots root calls).map (·.path)
      = (calls.filterMap (pathOf? conv fs roots root)).eraseDups := by
  have hall : ∀ paths : List Text, paths.filter (fun path => !List.elem path []) = paths :=
    fun paths => List.filter_eq_self.2 fun _ _ => rfl
  rw [listed, map_path_distinctFrom, hall, List.map_filterMap]
  rfl

lemma exists_resolve_of_mem_listed (h : view ∈ listed conv fs roots root calls) :
    ∃ call ∈ calls, resolve conv fs roots root call.target = .ok view := by
  have hmem := List.mem_of_find?_eq_some (find?_of_mem_distinctFrom h)
  obtain ⟨call, hcall, hview⟩ := List.mem_filterMap.1 hmem
  refine ⟨call, hcall, ?_⟩
  rcases hresolve : resolve conv fs roots root call.target with failure | found
  · rw [hresolve] at hview
    cases hview
  · rw [hresolve] at hview
    cases hview
    rfl

/-- A view that is listed is that of the first call that leads to its path. -/
lemma exists_call_of_mem_listed (h : view ∈ listed conv fs roots root calls) :
    ∃ call, calls.find? (fun call => pathOf? conv fs roots root call == some view.path) = some call
      ∧ view = ⟨call.target, view.path, fs.has view.path⟩ := by
  have hpath : ∀ call, (resolve conv fs roots root call.target).toOption.any
      (fun other => other.path == view.path)
        = (pathOf? conv fs roots root call == some view.path) := by
    intro call
    rw [toOption_resolve, Option.any_map]
    cases pathOf? conv fs roots root call <;> simp
  have hfirst := find?_of_mem_distinctFrom h
  rw [List.find?_filterMap, Option.bind_eq_some_iff] at hfirst
  obtain ⟨call, hcall, hview⟩ := hfirst
  simp only [hpath] at hcall
  rw [toOption_resolve, Option.map_eq_some_iff] at hview
  obtain ⟨path, -, rfl⟩ := hview
  exact ⟨call, hcall, rfl⟩

lemma mem_map_path_listed : path ∈ (listed conv fs roots root calls).map (·.path)
    ↔ ∃ call ∈ calls, pathOf? conv fs roots root call = some path := by
  rw [map_path_listed, List.mem_eraseDups, List.mem_filterMap]

lemma isPresent_of_mem_listed (h : view ∈ listed conv fs roots root calls) :
    view.isPresent = fs.has view.path := by
  obtain ⟨call, -, hview⟩ := exists_call_of_mem_listed h
  rw [hview]

/-- Listed views have different paths, and these are paths of different files. -/
lemma pairwise_listed (conv : Convention) (fs : FileSystem) (roots : ViewRoots) (root : Text)
    (calls : List RenderCall) :
    (listed conv fs roots root calls).Pairwise fun view view' =>
      canonical view.path ≠ canonical view'.path ∧ Store.AreApart view.path view'.path := by
  have hnodup : (listed conv fs roots root calls).Pairwise fun view view' =>
      view.path ≠ view'.path := by
    rw [← List.pairwise_map, map_path_listed]
    exact Text.nodup_eraseDups _
  have hnormal : ∀ view ∈ listed conv fs roots root calls, canonical view.path = view.path := by
    intro view hview
    obtain ⟨call, hcall, -⟩ := exists_call_of_mem_listed hview
    have hpath : pathOf? conv fs roots root call = some view.path := by
      simpa using List.find?_some hcall
    exact canonical_of_pathOf? hpath
  refine hnodup.imp_of_mem fun {view view'} hview hview' hne => ?_
  have hpath := hnormal view hview
  have hpath' := hnormal view' hview'
  refine ⟨by rwa [hpath, hpath'], Store.areApart_iff.2 ?_⟩
  rwa [normalizeText_of_canonical hpath, normalizeText_of_canonical hpath']

/-! ## Selecting an action -/

lemma ofAction_named {action : Action} (hroots : ViewRoots.of? conv root path = some roots)
    (hnamed : Action.named? conv text name = some action) :
    ofAction conv fs root path text (.named name)
      = .ok (listed conv fs roots root (action.renderCalls text)) :=
  ofAction_eq_ok_iff.2 ⟨action, roots, by simp only [Selection.pick, hnamed], hroots, rfl⟩

/-- **The views of an action are listed once, in order and without loss.** When the views of a
selected action are listed, their paths are those that the calls in its body lead to, in the order
of the calls and without repetitions; each view has the target of the first call that leads to its
path, and tells whether there is something under the path; and no two of the paths have one normal
form, or are those of one file of a store. A cursor selects the same list as the name of the action
that it is in, if no earlier action has that name. -/
theorem ofAction_listsOnce (conv : Convention) (fs : FileSystem) (root path text : Text) :
    (∀ selection views, ofAction conv fs root path text selection = .ok views →
      ∃ action roots, selection.pick conv text = .ok action
        ∧ ViewRoots.of? conv root path = some roots
        ∧ views.map (·.path)
          = ((action.renderCalls text).filterMap (pathOf? conv fs roots root)).eraseDups
        ∧ (∀ view ∈ views, ∃ call, (action.renderCalls text).find?
            (fun call => pathOf? conv fs roots root call == some view.path) = some call
          ∧ view = ⟨call.target, view.path, fs.has view.path⟩)
        ∧ views.Pairwise fun view view' =>
          canonical view.path ≠ canonical view'.path ∧ Store.AreApart view.path view'.path)
      ∧ ∀ offset before action after, Action.catalog conv text = before ++ action :: after →
        Action.at? conv text offset = some action →
        (∀ earlier ∈ before, earlier.name ≠ action.name) →
        ofAction conv fs root path text (.cursor offset)
          = ofAction conv fs root path text (.named action.name) := by
  constructor
  · intro selection views h
    obtain ⟨action, roots, hpick, hroots, rfl⟩ := ofAction_eq_ok_iff.1 h
    exact ⟨action, roots, hpick, hroots, map_path_listed conv fs roots root _,
      fun view hview => exists_call_of_mem_listed hview, pairwise_listed conv fs roots root _⟩
  · intro offset before action after hcatalog hfound hfirst
    have hnamed := Action.named?_of_catalog_eq hcatalog hfirst
    simp only [ofAction, Selection.pick, hfound, hnamed]

/-- Three spellings of one view and two of another one, with a call between them that cannot be
resolved, are listed as two views, the first of which exists. -/
theorem ofAction_listsOnce_spellings :
    let path := "/ws/protected/controllers/PostController.php".toList
    let text := ("function actionView() \x7b $this->render('x'); $this->render('./x');\n".toList
      ++ "$this->render('un.known'); $this->render('/post/x'); \n".toList
      ++ "$this->renderPartial('y'); $this->render('_y'); \x7d".toList)
    let store := Store.build [("/ws/protected/views/post/x.php".toList, "".toList)] []
    let action : Action := ⟨"actionView".toList, 0, 22, some 169, ⟨0, 0⟩⟩
    let views : List ViewFile :=
      [⟨.ofName "x".toList false, "/ws/protected/views/post/x.php".toList, true⟩,
        ⟨.ofName "y".toList true, "/ws/protected/views/post/_y.php".toList, false⟩]
    Action.catalog .stock text = [action]
      ∧ ofAction .stock (store.fileSystem ['/']) "/ws".toList path text (.cursor 100) = .ok views
      ∧ views.Pairwise fun view view' => Store.AreApart view.path view'.path := by
  intro path text store action views
  have hcatalog : Action.catalog .stock text = [] ++ action :: [] := by
    decide +kernel
  have hfound : Action.at? .stock text 100 = some action := by
    rw [Action.at?, hcatalog]
    rfl
  have hnamed : ofAction .stock (store.fileSystem ['/']) "/ws".toList path text (.named action.name)
      = .ok views := by
    decide +kernel
  obtain ⟨hlist, hcursor⟩ := ofAction_listsOnce .stock (store.fileSystem ['/']) "/ws".toList path
    text
  obtain ⟨-, -, -, -, -, -, hpairwise⟩ := hlist _ _ hnamed
  exact ⟨hcatalog, (hcursor 100 [] action [] hcatalog hfound nofun).trans hnamed,
    hpairwise.imp And.right⟩

end View
end YiiNavigator
