import YiiNavigator.Proofs.View.Listing
import YiiNavigator.Proofs.View.Segments
import YiiNavigator.View.OfAction

/-!
# The views of an action

Every view of an action comes from a call in its body. A bare name leads to a file in the own views
directory that is named like it, up to one underscore in front.
-/

namespace YiiNavigator

open YiiNavigator.Path

lemma ViewSpelling.no_dot_of_bare {name : Text} (h : ViewSpelling.ofName name = .bare) :
    '.' ∉ name := by
  unfold ViewSpelling.ofName at h
  split at h
  · cases h
  · split at h
    · cases h
    · split at h
      · cases h
      · split at h
        · cases h
        · rename_i hdot
          rwa [List.elem_iff] at hdot

namespace View

variable {conv : Convention} {fs : FileSystem} {root path text name : Text}

/-! ## Calls and views -/

/-- The action of a name that is declared has views, and each of them is what a call in the body of
one declared action is resolved to. -/
lemma exists_ofAction (fs : FileSystem) {roots : ViewRoots}
    (hroots : ViewRoots.of? conv root path = some roots)
    (hname : name ∈ (Action.catalog conv text).map (·.name)) :
    ∃ views, ofAction conv fs root path text (.named name) = .ok views
      ∧ ∀ view ∈ views, ∃ action ∈ Action.catalog conv text, ∃ call ∈ action.renderCalls text,
        resolve conv fs roots root call.target = .ok view := by
  obtain ⟨action, hnamed⟩ := Action.exists_named? hname
  refine ⟨_, ofAction_named hroots hnamed, fun view hview => ?_⟩
  obtain ⟨call, hcall, hresolve⟩ := exists_resolve_of_mem_listed hview
  exact ⟨action, List.mem_of_find?_eq_some hnamed, call, hcall, hresolve⟩

/-! ## Underscores -/

/-- The name without the underscore before it, if there is one. -/
def unmarked (name : Text) : Text :=
  if ['_'].isPrefixOf name then name.drop 1 else name

lemma unmarked_cons (rest : Text) : unmarked ('_' :: rest) = rest :=
  rfl

/-- A name is what is left of it without the underscore, or that with the underscore. -/
lemma eq_unmarked_or (name : Text) : name = unmarked name ∨ name = '_' :: unmarked name := by
  unfold unmarked
  split
  · rename_i hmarked
    obtain ⟨rest, rfl⟩ := List.isPrefixOf_iff_prefix.1 hmarked
    exact .inr rfl
  · exact .inl rfl

lemma unmarked_underscored (name : Text) : unmarked (underscored name) = unmarked name := by
  unfold underscored
  split
  · rfl
  · rename_i hplain
    rw [unmarked_cons, unmarked, if_neg hplain]

/-! ## Bare names -/

/-- A name without dots and slashes is plain. -/
lemma isPlain_of_bare (hname : name ≠ []) (hbare : ViewSpelling.ofName name = .bare)
    (hslash : '/' ∉ name) (hback : '\\' ∉ name) : IsPlain name := by
  have hdot := ViewSpelling.no_dot_of_bare hbare
  refine ⟨hname, hslash, hback, ?_, ?_⟩
  · rintro rfl
    exact hdot List.mem_cons_self
  · rintro rfl
    exact hdot List.mem_cons_self

/-- The file of a bare name lies in the own views directory. Its stem is the name, up to one
underscore in front. -/
lemma exists_file_of_bare {roots : ViewRoots} {p : Path} (hp : p.IsSettled)
    (hown : roots.own = p.print) {target : RenderTarget} {view : ViewFile}
    (hresolve : resolve conv fs roots root target = .ok view)
    (hbare : ViewSpelling.ofName target.name = .bare) (hslash : '/' ∉ target.name)
    (hback : '\\' ∉ target.name) :
    ∃ stem, IsPlain stem ∧ unmarked stem = unmarked target.name
      ∧ view.path = (p.under [stem ++ conv.viewExtension]).print := by
  obtain ⟨path, hfile, rfl⟩ := resolve_eq_ok_iff.1 hresolve
  obtain ⟨hname, spelled, hspelled, rfl⟩ := file?_eq_some_iff.1 hfile
  have hplain : IsPlain target.name := isPlain_of_bare hname hbare hslash hback
  have hpath : spelled = (p.under [target.name]).print := by
    unfold spelled? at hspelled
    rw [hbare] at hspelled
    rw [← Option.some.inj hspelled, hown, hp.joinText hplain]
  have hunder : (p.under [target.name]).IsSettled := hp.child hplain
  have hprobe := probe_under fs hp hplain conv.viewExtension_valid (.ofPartial target.isPartial)
  rcases fileName_eq_or fs conv.viewExtension (.ofPartial target.isPartial) p.print target.name
    with hfound | hfound
  · have hfile := hplain.append_extension conv.viewExtension_valid
    refine ⟨target.name, hplain, rfl, ?_⟩
    rw [hpath, hunder.canonical, hprobe, hfound, hp.joinText hfile]
  · have hfile := (isPlain_underscored hplain).append_extension conv.viewExtension_valid
    refine ⟨underscored target.name, isPlain_underscored hplain, unmarked_underscored _, ?_⟩
    rw [hpath, hunder.canonical, hprobe, hfound, hp.joinText hfile]

end View
end YiiNavigator
