import YiiNavigator.View.Resolution
import Mathlib.Data.List.Basic

/-!
# When a view name leads to a file

A call is resolved exactly when its name is not empty and denotes a path; which files there are
decides where it leads, not whether it does.
-/

namespace YiiNavigator
namespace View

variable {conv : Convention} {fs : FileSystem} {roots : ViewRoots} {root name : Text}
  {target : RenderTarget}

lemma file?_eq_some_iff {policy : Probe} {path : Text} :
    file? conv fs roots root name policy = some path
      ↔ name ≠ [] ∧ ∃ spelled, spelled? conv roots root name = some spelled
        ∧ path = probe fs conv.viewExtension policy (Path.canonical spelled) := by
  unfold file?
  by_cases hname : name = []
  · simp [hname]
  · have : ¬name.isEmpty = true := by simpa using hname
    rw [if_neg this, Option.map_eq_some_iff]
    simp only [ne_eq, hname, not_false_eq_true, true_and, eq_comm]

lemma resolve_eq_ok_iff {view : ViewFile} :
    resolve conv fs roots root target = .ok view
      ↔ ∃ path, file? conv fs roots root target.name (.ofPartial target.isPartial) = some path
        ∧ view = ⟨target, path, fs.has path⟩ := by
  unfold resolve
  by_cases hname : target.name.isEmpty = true
  · have : file? conv fs roots root target.name (.ofPartial target.isPartial) = none := by
      rw [file?, if_pos hname]
    simp [hname, this]
  · rw [if_neg hname]
    cases file? conv fs roots root target.name (.ofPartial target.isPartial) <;> simp [eq_comm]

lemma resolve_eq_error_iff :
    (∃ f, resolve conv fs roots root target = .error f)
      ↔ target.name = [] ∨ spelled? conv roots root target.name = none := by
  unfold resolve file?
  by_cases hname : target.name = []
  · simp [hname]
  · cases hpath : spelled? conv roots root target.name <;> simp [hname]

/-! ## The name that a probe looks for -/

/-- An underscore is all that is put before a name. -/
lemma notMem_underscored {c : Char} (hc : c ≠ '_') (h : c ∉ name) : c ∉ underscored name := by
  unfold underscored
  split
  · exact h
  · rw [List.mem_cons, not_or]
    exact ⟨hc, h⟩

end View
end YiiNavigator
