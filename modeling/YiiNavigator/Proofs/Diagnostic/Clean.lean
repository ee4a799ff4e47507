import YiiNavigator.Diagnostic.Checks
import YiiNavigator.FileSystem.Store
import YiiNavigator.Proofs.Convention
import YiiNavigator.Proofs.View.Listing

/-!
# Controllers without view problems

The check of a controller looks at every call of every action, the list of the views of an action
leaves out calls that cannot be resolved and paths that come again. Even so they agree: nothing is
wrong with the views of a controller when the lists of its actions are whole and all that they list
exists (`ofViews_eq_nil_listed`).
-/

namespace YiiNavigator
namespace Diagnostic

variable {conv : Convention} {fs : FileSystem} {roots : ViewRoots} {root path text : Text}
  {call : RenderCall}

/-! ## Calls without problems -/

/-- Nothing is wrong with a call exactly when it leads to a path under which there is something. -/
lemma viewProblem?_eq_none_iff : viewProblem? conv fs roots root call.target = none
    ↔ ∃ path, View.pathOf? conv fs roots root call = some path ∧ fs.has path = true := by
  have hview := View.toOption_resolve conv fs roots root call
  unfold viewProblem?
  rcases hresolve : View.resolve conv fs roots root call.target with failure | view
  · rw [hresolve] at hview
    have hpath : View.pathOf? conv fs roots root call = none := Option.map_eq_none_iff.1 hview.symm
    refine iff_of_false (Option.some_ne_none _) fun ⟨path, hsome, _⟩ => ?_
    rw [hpath] at hsome
    cases hsome
  · rw [hresolve] at hview
    obtain ⟨path, hpath, rfl⟩ := Option.map_eq_some_iff.1 hview.symm
    dsimp only
    by_cases hpresent : fs.has path = true
    · rw [if_pos hpresent]
      exact iff_of_true rfl ⟨path, hpath, hpresent⟩
    · rw [if_neg hpresent]
      -- each of the three findings is a problem
      refine iff_of_false (fun hnone => ?_) fun ⟨other, hother, hhas⟩ => ?_
      · split at hnone
        · cases hnone
        · split at hnone
          · cases hnone
          · cases hnone
      · rw [hpath] at hother
        cases hother
        exact hpresent hhas

/-- The check of the views of a controller finds nothing exactly when nothing is wrong with any call
of its actions. -/
lemma ofViews_eq_nil_iff (hroots : ViewRoots.of? conv root path = some roots)
    (hview : Project.isView conv (some root) path = false) :
    ofViews conv fs root path text = []
      ↔ ∀ action ∈ Action.catalog conv text, ∀ call ∈ action.renderCalls text,
        ∃ path, View.pathOf? conv fs roots root call = some path ∧ fs.has path = true := by
  have hcalls : checkedCalls conv root path text
      = (Action.catalog conv text).flatMap (·.renderCalls text) := by
    rw [checkedCalls, hview]
    rfl
  unfold ofViews
  rw [hroots]
  dsimp only
  rw [List.filterMap_eq_nil_iff, hcalls]
  simp only [Option.map_eq_none_iff, viewProblem?_eq_none_iff, List.forall_mem_flatMap]

/-! ## Lists without missing views -/

/-- **A clean check means that every view of every action is there.** If nothing is wrong with the
views of a controller, the views of each declared name are listed, the path of each call of its
action is among them, and all that is listed exists. Conversely nothing is wrong if the names of the
actions are different, all calls of the actions can be resolved, and all that is listed for the
actions exists. -/
theorem ofViews_eq_nil_listed (hroots : ViewRoots.of? conv root path = some roots)
    (hview : Project.isView conv (some root) path = false) :
    (ofViews conv fs root path text = [] →
      ∀ name ∈ (Action.catalog conv text).map (·.name), ∃ action views,
        Action.named? conv text name = some action
        ∧ View.ofAction conv fs root path text (.named name) = .ok views
        ∧ (∀ call ∈ action.renderCalls text,
          ∃ view ∈ views, View.pathOf? conv fs roots root call = some view.path)
        ∧ ∀ view ∈ views, view.isPresent = true)
      ∧ (((Action.catalog conv text).map (·.name)).Nodup →
        (∀ action ∈ Action.catalog conv text, ∀ call ∈ action.renderCalls text,
          (View.pathOf? conv fs roots root call).isSome = true) →
        (∀ action ∈ Action.catalog conv text, ∀ views,
          View.ofAction conv fs root path text (.named action.name) = .ok views →
          ∀ view ∈ views, view.isPresent = true) →
        ofViews conv fs root path text = []) := by
  rw [ofViews_eq_nil_iff hroots hview]
  constructor
  · intro hclean name hname
    obtain ⟨action, hnamed⟩ := Action.exists_named? hname
    have haction : action ∈ Action.catalog conv text := List.mem_of_find?_eq_some hnamed
    refine ⟨action, _, hnamed, View.ofAction_named hroots hnamed, fun call hcall => ?_,
      fun view hlisted => ?_⟩
    · obtain ⟨path, hpath, -⟩ := hclean action haction call hcall
      obtain ⟨view, hmem, rfl⟩ := List.mem_map.1 (View.mem_map_path_listed.2 ⟨call, hcall, hpath⟩)
      exact ⟨view, hmem, hpath⟩
    · obtain ⟨call, hcall, hpath⟩ :=
        View.mem_map_path_listed.1 (List.mem_map_of_mem (f := (·.path)) hlisted)
      obtain ⟨path, hpath', hpresent⟩ := hclean action haction call hcall
      obtain rfl : view.path = path := Option.some.inj (hpath.symm.trans hpath')
      rw [View.isPresent_of_mem_listed hlisted, hpresent]
  · intro hnodup hresolved hpresent action haction call hcall
    obtain ⟨path, hpath⟩ := Option.isSome_iff_exists.1 (hresolved action haction call hcall)
    obtain ⟨view, hlisted, rfl⟩ := List.mem_map.1 (View.mem_map_path_listed.2 ⟨call, hcall, hpath⟩)
    have hnamed := Action.named?_of_nodup hnodup haction
    refine ⟨view.path, hpath, ?_⟩
    rw [← View.isPresent_of_mem_listed hlisted]
    exact hpresent action haction _ (View.ofAction_named hroots hnamed) view hlisted

/-- An action that renders one view twice, and another one with a partial that exists without its
underscore: the lists are whole, so that the check finds nothing, and so all listed views exist. -/
theorem ofViews_eq_nil_listed_partial :
    let path := "/ws/protected/controllers/PostController.php".toList
    let text :=
      ("function actionA() \x7b $this->render('list'); $this->render('./list'); \x7d".toList
      ++ "function actionB() \x7b $this->renderPartial('row'); \x7d".toList)
    let fs := (Store.build [("/ws/protected/views/post/list.php".toList, "".toList),
      ("/ws/protected/views/post/row.php".toList, "".toList)] []).fileSystem ['/']
    ofViews .stock fs "/ws".toList path text = []
      ∧ ∃ views, View.ofAction .stock fs "/ws".toList path text (.named "actionB".toList)
          = .ok views
        ∧ ∀ view ∈ views, view.isPresent = true := by
  intro path text fs
  let roots : ViewRoots := ⟨"/ws/protected/views/post".toList, "/ws/protected/views".toList, none⟩
  have hroots : ViewRoots.of? .stock "/ws".toList path = some roots := by
    decide +kernel
  have hview : Project.isView .stock (some "/ws".toList) path = false := by
    decide +kernel
  have hnames : (Action.catalog .stock text).map (·.name)
      = ["actionA".toList, "actionB".toList] := by
    decide +kernel
  have hresolved : ∀ action ∈ Action.catalog .stock text, ∀ call ∈ action.renderCalls text,
      (View.pathOf? .stock fs roots "/ws".toList call).isSome = true := by
    decide +kernel
  have hpresent : ∀ name ∈ (Action.catalog .stock text).map (·.name),
      (View.ofAction .stock fs "/ws".toList path text (.named name)).toOption.all
        (·.all (·.isPresent)) = true := by
    rw [hnames]
    decide +kernel
  obtain ⟨hlists, hclean⟩ := @ofViews_eq_nil_listed .stock fs roots _ path text hroots hview
  have hnone : ofViews .stock fs "/ws".toList path text = [] := by
    refine hclean (by rw [hnames]; decide) hresolved fun action haction views hviews => ?_
    have hall := hpresent action.name (List.mem_map_of_mem haction)
    rw [hviews] at hall
    exact List.all_eq_true.1 hall
  obtain ⟨-, views, -, hviews, -, hlisted⟩ := hlists hnone "actionB".toList
    (by rw [hnames]; decide)
  exact ⟨hnone, views, hviews, hlisted⟩

end Diagnostic
end YiiNavigator
