import YiiNavigator.Proofs.Diagnostic.Order
import YiiNavigator.Proofs.FileSystem.Growth
import YiiNavigator.Proofs.View.Resolution

/-!
# Diagnostics of a growing file system

Where a view or an import leads depends on the files that there are: a partial is looked for under
two names, and an import may be a file or a directory. Even so, when files are added no error
comes up that was not there before, and the problems that do not concern files stay as they are.
-/

namespace YiiNavigator

variable {before after : FileSystem} {conv : Convention} {roots : ViewRoots} {root : Text}

/-! ## Views -/

namespace View

/-- A probe that finds nothing in the larger file system finds nothing in the smaller one, so that
both expect the same file. -/
lemma probe_eq_of_not_has (h : before.Grows after) {extension target : Text} {policy : Probe}
    (hmissing : ¬after.has (probe after extension policy target) = true) :
    probe before extension policy target = probe after extension policy target := by
  rcases policy with - | -
  · rfl
  · simp only [probe] at hmissing ⊢
    set marked := Path.joinText (Path.splitLast target).1
      (underscored (Path.splitLast target).2 ++ extension)
    set plain := Path.joinText (Path.splitLast target).1 ((Path.splitLast target).2 ++ extension)
    -- a name that exists is the one found, against the assumption, so that neither exists
    by_cases hmarked : after.has marked = true
    · rw [if_pos hmarked] at hmissing
      exact absurd hmarked hmissing
    · rw [if_neg hmarked] at hmissing ⊢
      by_cases hplain : after.has plain = true
      · rw [if_pos hplain] at hmissing
        exact absurd hplain hmissing
      · rw [if_neg hplain, if_neg (h.not_has hmarked), if_neg (h.not_has hplain)]

/-- A view that is missing in the larger file system was missing before, at the same path. -/
lemma resolve_eq_of_not_isPresent (h : before.Grows after) {target : RenderTarget}
    {view : ViewFile} (hview : resolve conv after roots root target = .ok view)
    (hmissing : ¬view.isPresent = true) : resolve conv before roots root target = .ok view := by
  rw [resolve_eq_ok_iff] at hview ⊢
  obtain ⟨path, hpath, rfl⟩ := hview
  obtain ⟨hname, spelled, hspelled, rfl⟩ := file?_eq_some_iff.1 hpath
  refine ⟨_, file?_eq_some_iff.2 ⟨hname, spelled, hspelled,
    (probe_eq_of_not_has h hmissing).symm⟩, ?_⟩
  rw [Bool.eq_false_of_not_eq_true (h.not_has hmissing), ViewFile.mk.injEq]
  exact ⟨rfl, rfl, Bool.eq_false_of_not_eq_true hmissing⟩

end View

namespace Diagnostic

/-- A view problem that is an error in the larger file system was there before. -/
lemma viewProblem?_of_error (h : before.Grows after) {target : RenderTarget} {p : Problem}
    (hproblem : viewProblem? conv after roots root target = some p) (herror : p.severity = .error) :
    viewProblem? conv before roots root target = some p := by
  unfold viewProblem? at hproblem ⊢
  rcases hview : View.resolve conv after roots root target with f | view
  · rw [hview] at hproblem
    cases hproblem
    cases herror
  · simp only [hview] at hproblem
    by_cases hpresent : view.isPresent = true
    · rw [if_pos hpresent] at hproblem
      cases hproblem
    · rw [View.resolve_eq_of_not_isPresent h hview hpresent]
      simp only [hpresent, Bool.false_eq_true, if_false] at hproblem ⊢
      -- the other spelling of the path would make it a piece of information
      by_cases halternative : after.has (toggleUnderscore view.path) = true
      · rw [if_pos halternative] at hproblem
        cases hproblem
        cases herror
      · rw [if_neg halternative] at hproblem
        rw [if_neg (h.not_has halternative), ← h.workingDirectory]
        exact hproblem

/-- Whether a problem shows without looking at any file. -/
def isFixed (p : Problem) : Bool :=
  match p with
  | .viewUnresolved _ _ => true
  | .importRepeated _ _ => true
  | .methodMissing _ => true
  | _ => false

/-- The codes of the problems that show without looking at any file. -/
def fixedCodes : List Text :=
  ["view-path-unresolved".toList, "import-duplicate".toList, "action-method-missing".toList]

lemma elem_fixedCodes (p : Problem) : fixedCodes.elem p.code = isFixed p := by
  cases p <;> rfl

/-- The calls that cannot be resolved are told by their names alone. -/
lemma filter_viewProblem? (fs : FileSystem) (target : RenderTarget) :
    (viewProblem? conv fs roots root target).filter isFixed
      = if target.name = [] ∨ View.spelled? conv roots root target.name = none then
          some (.viewUnresolved target.name target.isPartial)
        else none := by
  unfold viewProblem?
  rcases hview : View.resolve conv fs roots root target with f | view
  · rw [if_pos (View.resolve_eq_error_iff.1 ⟨f, hview⟩)]
    rfl
  · have hresolved : ¬(target.name = [] ∨ View.spelled? conv roots root target.name = none) := by
      intro hunresolved
      obtain ⟨f, hf⟩ : ∃ f, View.resolve conv fs roots root target = .error f :=
        View.resolve_eq_error_iff.2 hunresolved
      rw [hview] at hf
      cases hf
    rw [if_neg hresolved]
    dsimp only
    split
    · rfl
    · split
      · rfl
      · split <;> rfl

/-! ## Imports -/

/-- An import that leads somewhere goes on doing so, if perhaps to a file in place of a
directory. -/
lemma importExists_mono (h : before.Grows after) {dotted : Text}
    (hexists : importExists conv before root dotted = true) :
    importExists conv after root dotted = true := by
  unfold importExists Import.path? at hexists ⊢
  by_cases hwildcard : Import.isWildcard dotted = true
  · simp only [hwildcard, if_true] at hexists ⊢
    cases hpath : (Alias.resolve? conv root
        (dotted.take (dotted.length - Import.wildcard.length))).map Path.canonical with
    | none =>
      rw [hpath] at hexists
      cases hexists
    | some path =>
      rw [hpath] at hexists
      exact h.has path hexists
  · simp only [hwildcard, Bool.false_eq_true, if_false] at hexists ⊢
    rcases hspelled : Alias.resolve? conv root dotted with - | spelled
    · rw [hspelled] at hexists
      cases hexists
    · simp only [hspelled, Option.map_some] at hexists ⊢
      set base := Path.canonical spelled
      -- the file may have come up beside the directory: then it is found in its place
      have hclass := h.has (base ++ conv.viewExtension)
      have hbase := h.has base
      grind

/-! ## Whole documents -/

variable {path text : Text}

/-- Whether a diagnostic is an error. -/
def isError (d : Diagnostic) : Bool :=
  d.problem.severity == .error

/-- Whether the problem of a diagnostic shows without looking at any file. -/
def hasFixedCode (d : Diagnostic) : Bool :=
  fixedCodes.elem d.problem.code

lemma filterMap_sublist {α β : Type} {f g : α → Option β} {l : List α}
    (h : ∀ a ∈ l, ∀ b, g a = some b → f a = some b) :
    (l.filterMap g).Sublist (l.filterMap f) := by
  induction l with
  | nil => exact .refl _
  | cons a l ih =>
    have htail := ih fun b hb => h b (List.mem_cons_of_mem _ hb)
    rcases hg : g a with - | b
    · rw [List.filterMap_cons_none hg, List.filterMap_cons]
      split
      · exact htail
      · exact htail.cons _
    · rw [List.filterMap_cons_some hg, List.filterMap_cons_some (h a List.mem_cons_self b hg)]
      exact htail.cons_cons b

lemma ofViews_errors_sublist (h : before.Grows after) :
    ((ofViews conv after root path text).filter isError).Sublist
      ((ofViews conv before root path text).filter isError) := by
  unfold ofViews
  rcases ViewRoots.of? conv root path with - | roots
  · exact .refl _
  · simp only [List.filter_filterMap]
    refine filterMap_sublist fun call _ d hd => ?_
    obtain ⟨hfound, herror⟩ := Option.filter_eq_some_iff.1 hd
    obtain ⟨p, hp, rfl⟩ := Option.map_eq_some_iff.1 hfound
    rw [viewProblem?_of_error h hp (by simpa [isError, ofName] using herror)]
    exact Option.filter_eq_some_iff.2 ⟨rfl, herror⟩

lemma ofViews_fixed (fs : FileSystem) :
    (ofViews conv fs root path text).filter hasFixedCode
      = match ViewRoots.of? conv root path with
        | none => []
        | some roots => (checkedCalls conv root path text).filterMap fun call =>
          ((viewProblem? conv fs roots root call.target).filter isFixed).map
            (ofName text call.nameOffset call.target.name) := by
  unfold ofViews
  rcases ViewRoots.of? conv root path with - | roots
  · rfl
  · simp only [List.filter_filterMap]
    congr 1
    funext call
    cases viewProblem? conv fs roots root call.target with
    | none => rfl
    | some p =>
      simp only [Option.map_some, Option.filter_some, hasFixedCode, ofName, elem_fixedCodes]
      split <;> rfl

/-- Adding files only takes imports off the list of those that lead nowhere. -/
lemma ofImports_sublist (h : before.Grows after) :
    (ofImports conv after root text).Sublist (ofImports conv before root text) := by
  refine List.Sublist.append (List.Sublist.map _ ?_) (.refl _)
  refine List.monotone_filter_right _ fun l hl => ?_
  rw [Bool.not_eq_true'] at hl ⊢
  exact Bool.eq_false_of_not_eq_true fun hbefore => by simp [importExists_mono h hbefore] at hl

lemma ofImports_fixed (fs : FileSystem) :
    (ofImports conv fs root text).filter hasFixedCode
      = ((Import.literals text).filter fun l =>
          decide (1 < (Import.literals text).countP (·.name == l.name))).map fun l =>
        ofName text l.offset l.name
          (.importRepeated l.name ((Import.literals text).countP (·.name == l.name))) := by
  unfold ofImports
  rw [List.filter_append, List.filter_eq_nil_iff.2, List.nil_append, List.filter_eq_self]
  · intro d hd
    obtain ⟨l, -, rfl⟩ := List.mem_map.1 hd
    exact elem_fixedCodes _
  · intro d hd
    obtain ⟨l, -, rfl⟩ := List.mem_map.1 hd
    rw [hasFixedCode, elem_fixedCodes]
    exact Bool.false_ne_true

/-- However many files and directories are added to a store, and wherever relative paths are taken
from, the errors of a document are among those that it had before, in the same order and at the same
places, and its calls that cannot be resolved, its repeated imports and its delegated actions
without a method are reported as before. -/
theorem ofDocument_changeAll (conv : Convention) (s : Store) (changes : List Store.Change)
    (cwd root path text : Text) :
    ((ofDocument conv ((s.changeAll changes).fileSystem cwd) root path text).filter isError).Sublist
        ((ofDocument conv (s.fileSystem cwd) root path text).filter isError)
      ∧ (ofDocument conv ((s.changeAll changes).fileSystem cwd) root path text).filter hasFixedCode
        = (ofDocument conv (s.fileSystem cwd) root path text).filter hasFixedCode := by
  have h := s.grows_changeAll changes cwd
  constructor
  · rw [filter_ofDocument, filter_ofDocument]
    refine StableSort.mergeSort_sublist precedes_trans precedes_total ?_
    exact ((ofViews_errors_sublist h).append ((ofImports_sublist h).filter _)).append (.refl _)
  · rw [filter_ofDocument, filter_ofDocument, ofViews_fixed, ofViews_fixed, ofImports_fixed,
      ofImports_fixed]
    simp only [filter_viewProblem?]

end Diagnostic
end YiiNavigator
