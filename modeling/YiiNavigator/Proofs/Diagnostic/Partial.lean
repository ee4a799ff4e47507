import YiiNavigator.Diagnostic.Checks
import YiiNavigator.FileSystem.Store
import YiiNavigator.Proofs.Convention
import YiiNavigator.Proofs.Path.NormalForm
import YiiNavigator.Proofs.View.Resolution

/-!
# Diagnosed parts of views

A partial is looked for under a name with an underscore and one without. The probe puts the
underscore before the base of a path, the diagnosis takes it off the file that the probe expects.
Both mean the same two files: a partial is missing when neither exists, and it is elsewhere when
only the file without an underscore does while the call asks for the other one.
-/

namespace YiiNavigator

open YiiNavigator.Path

namespace Diagnostic

variable {conv : Convention} {fs : FileSystem} {roots : ViewRoots} {root : Text}
  {target : RenderTarget} {view : ViewFile} {directory : Path} {path base name : Text}

/-- The file of a view name in a directory. -/
def viewFile (conv : Convention) (directory name : Text) : Text :=
  joinText directory (name ++ conv.viewExtension)

/-- A path as it is shown to a reader. -/
def shown (fs : FileSystem) (root path : Text) : Text :=
  relativeText fs.workingDirectory root path

/-! ## The two candidates -/

/-- Toggling takes the underscore off a file name again. -/
lemma toggleUnderscore_viewFile (hdirectory : directory.IsClean) (hslash : '/' ∉ name) :
    toggleUnderscore (viewFile conv directory.spell ('_' :: name))
      = viewFile conv directory.spell name := by
  obtain ⟨rest, hrest, -, -, hno, -⟩ := exists_of_isExtension conv.viewExtension_valid
  have hmarked : IsName ('_' :: name ++ conv.viewExtension) := by
    refine ⟨List.cons_ne_nil _ _, ?_, fun heq => absurd (List.cons.inj heq).1 (by decide)⟩
    simp [hrest, hslash, hno]
  unfold toggleUnderscore viewFile
  rw [hdirectory.joinText_spell hmarked, hdirectory.splitLast_spell hmarked]
  rfl

/-- A probe for a partial leads to the file with the underscore, unless only the other one
exists. -/
lemma probe_eq (fs : FileSystem) (hsplit : splitLast path = (directory.spell, base))
    (hmark : View.underscored base = '_' :: name) :
    View.probe fs conv.viewExtension .preferExisting path
      = if fs.has (viewFile conv directory.spell ('_' :: name)) then
          viewFile conv directory.spell ('_' :: name)
        else if fs.has (viewFile conv directory.spell base) then
          viewFile conv directory.spell base
        else viewFile conv directory.spell ('_' :: name) := by
  unfold View.probe
  rw [hsplit]
  dsimp only
  rw [hmark]
  rfl

/-! ## The diagnosis -/

/-- What is wrong with a partial, by the file that it leads to. -/
lemma viewProblem?_of_resolve (hpartial : target.isPartial = true)
    (hview : View.resolve conv fs roots root target = .ok view) :
    viewProblem? conv fs roots root target
      = if fs.has view.path then none
        else if fs.has (toggleUnderscore view.path) then
          some (.viewElsewhere (shown fs root (toggleUnderscore view.path)) true)
        else some (.partMissing (shown fs root view.path)
          (shown fs root (toggleUnderscore view.path))) := by
  obtain ⟨path, -, rfl⟩ := View.resolve_eq_ok_iff.1 hview
  unfold viewProblem? shown
  rw [hview, hpartial]
  rfl

/-- What is wrong with a partial, by the files that exist: the one with an underscore, the one of
the base, and the one without an underscore. One of the first and the last of them is that of the
base. -/
lemma viewProblem?_eq (hpartial : target.isPartial = true)
    (hview : View.resolve conv fs roots root target = .ok view)
    (hpath : view.path = View.probe fs conv.viewExtension .preferExisting path)
    (hdirectory : directory.IsClean) (hslash : '/' ∉ name)
    (hsplit : splitLast path = (directory.spell, base))
    (hmark : View.underscored base = '_' :: name) :
    viewProblem? conv fs roots root target
      = if fs.has (viewFile conv directory.spell ('_' :: name))
            || fs.has (viewFile conv directory.spell base) then none
        else if fs.has (viewFile conv directory.spell name) then
          some (.viewElsewhere (shown fs root (viewFile conv directory.spell name)) true)
        else some (.partMissing (shown fs root (viewFile conv directory.spell ('_' :: name)))
          (shown fs root (viewFile conv directory.spell name))) := by
  rw [viewProblem?_of_resolve hpartial hview, hpath, probe_eq fs hsplit hmark]
  by_cases hmarked : fs.has (viewFile conv directory.spell ('_' :: name)) = true
  · rw [if_pos hmarked, if_pos hmarked, hmarked, Bool.true_or, if_pos rfl]
  · by_cases hbase : fs.has (viewFile conv directory.spell base) = true
    · rw [if_neg hmarked, if_pos hbase, if_pos hbase, hbase, Bool.or_true, if_pos rfl]
    · have hneither : ¬(fs.has (viewFile conv directory.spell ('_' :: name))
          || fs.has (viewFile conv directory.spell base)) = true := by
        rw [Bool.or_eq_true]
        exact not_or.2 ⟨hmarked, hbase⟩
      rw [if_neg hmarked, if_neg hbase, if_neg hmarked, toggleUnderscore_viewFile hdirectory hslash,
        if_neg hneither]

/-- **The diagnosis of a partial agrees with its probe.** A call for a partial that can be resolved
leads to a base in a directory. When the base has no underscore, nothing is wrong exactly when the
file with one or the file without exists, and otherwise both are reported missing. When the base has
an underscore, nothing is wrong exactly when its file exists; the view is elsewhere exactly when
only the file without the underscore exists, and both are reported missing exactly when neither
does. -/
theorem viewProblem?_partial (hpartial : target.isPartial = true)
    (hview : View.resolve conv fs roots root target = .ok view) :
    ∃ spelled directory base, View.spelled? conv roots root target.name = some spelled
      ∧ splitLast (canonical spelled) = (directory, base)
      ∧ canonical spelled ++ conv.viewExtension = viewFile conv directory base
      ∧ (['_'].isPrefixOf base = false →
        let marked := viewFile conv directory ('_' :: base)
        let plain := viewFile conv directory base
        (viewProblem? conv fs roots root target = none ↔ fs.has marked ∨ fs.has plain)
          ∧ (∀ problem ∈ viewProblem? conv fs roots root target,
            problem = .partMissing (shown fs root marked) (shown fs root plain)))
      ∧ ∀ name, base = '_' :: name →
        let marked := viewFile conv directory base
        let plain := viewFile conv directory name
        (viewProblem? conv fs roots root target = none ↔ fs.has marked)
          ∧ (viewProblem? conv fs roots root target
              = some (.viewElsewhere (shown fs root plain) true) ↔ ¬fs.has marked ∧ fs.has plain)
          ∧ (viewProblem? conv fs roots root target
              = some (.partMissing (shown fs root marked) (shown fs root plain))
            ↔ ¬fs.has marked ∧ ¬fs.has plain) := by
  obtain ⟨path, hfile, rfl⟩ := View.resolve_eq_ok_iff.1 hview
  obtain ⟨-, spelled, hspelled, hpath⟩ := View.file?_eq_some_iff.1 hfile
  have hread : (read (canonical spelled)).print = canonical spelled := by
    rw [read_canonical]
    rfl
  obtain ⟨directory, base, hdirectory, hslash, hback, hsplit, happend⟩ :=
    (isCanonical_read spelled).exists_splitLast
  rw [hread] at hsplit happend
  rw [hpartial] at hpath
  refine ⟨spelled, directory.spell, base, hspelled, hsplit, ?_, fun hplain => ?_, ?_⟩
  · have hname := (isPlain_append hslash hback conv.viewExtension_valid).isName
    rw [happend]
    exact (hdirectory.clean.joinText_spell hname).symm
  · have hmark : View.underscored base = '_' :: base := if_neg (by rw [hplain]; decide)
    rw [viewProblem?_eq hpartial hview hpath hdirectory.clean hslash hsplit hmark]
    rcases hfound : (fs.has (viewFile conv directory.spell ('_' :: base))
        || fs.has (viewFile conv directory.spell base)) with - | -
    · obtain ⟨hmarked, hunmarked⟩ := Bool.or_eq_false_iff.1 hfound
      simp [hmarked, hunmarked, eq_comm]
    · exact ⟨iff_of_true rfl (Bool.or_eq_true_iff.1 hfound), fun _ hproblem => by cases hproblem⟩
  · rintro name rfl
    have hmark : View.underscored ('_' :: name) = '_' :: name := if_pos (by simp)
    have hname : '/' ∉ name := fun h => hslash (List.mem_cons_of_mem _ h)
    rw [viewProblem?_eq hpartial hview hpath hdirectory.clean hname hsplit hmark, Bool.or_self]
    by_cases hmarked : fs.has (viewFile conv directory.spell ('_' :: name))
    · simp [hmarked]
    · by_cases hplain : fs.has (viewFile conv directory.spell name)
      · simp [hmarked, hplain]
      · simp [hmarked, hplain]

/-- Of two underscores only one is taken off: a call for `__item` is told of `_item`, and not of
`item`, which exists too. -/
theorem viewProblem?_partial_twoUnderscores :
    let roots : ViewRoots := ⟨"/ws/protected/views/post".toList, "/ws/protected/views".toList, none⟩
    let store := Store.build [("/ws/protected/views/post/item.php".toList, "".toList),
      ("/ws/protected/views/post/_item.php".toList, "".toList)] []
    viewProblem? .stock (store.fileSystem ['/']) roots "/ws".toList (.ofName "__item".toList true)
      = some (.viewElsewhere "protected/views/post/_item.php".toList true) := by
  intro roots store
  have hview : View.resolve .stock (store.fileSystem ['/']) roots "/ws".toList
      (.ofName "__item".toList true) = .ok ⟨.ofName "__item".toList true,
        "/ws/protected/views/post/__item.php".toList, false⟩ := by
    decide +kernel
  have hspelled : View.spelled? .stock roots "/ws".toList "__item".toList
      = some "/ws/protected/views/post/__item".toList := by
    decide +kernel
  have hsplit : splitLast (canonical "/ws/protected/views/post/__item".toList)
      = ("/ws/protected/views/post".toList, "__item".toList) := by
    decide +kernel
  have hshown : shown (store.fileSystem ['/']) "/ws".toList
      (viewFile .stock "/ws/protected/views/post".toList "_item".toList)
      = "protected/views/post/_item.php".toList := by
    decide +kernel
  obtain ⟨spelled, directory, base, hspelled', hsplit', -, -, hmarked⟩ :=
    viewProblem?_partial rfl hview
  obtain rfl := Option.some.inj (hspelled.symm.trans hspelled')
  obtain ⟨rfl, rfl⟩ := Prod.mk.inj (hsplit.symm.trans hsplit')
  rw [← hshown]
  exact (hmarked "_item".toList rfl).2.1.2 (by decide +kernel)

end Diagnostic
end YiiNavigator
