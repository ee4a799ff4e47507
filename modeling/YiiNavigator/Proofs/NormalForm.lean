import YiiNavigator.FileSystem.Store
import YiiNavigator.Import
import YiiNavigator.Proofs.Convention
import YiiNavigator.Proofs.Layout
import YiiNavigator.Proofs.Path.NormalForm
import YiiNavigator.Proofs.View.Resolution

/-!
# Resolved paths are in normal form

The file of a view name is named after the normal form is taken, that of a layout before, and that
of an import after it or not at all. In each case the path that comes out is in normal form, also
where the name leads up, out of the workspace or to an anchor, and whatever files there are.
-/

namespace YiiNavigator

open YiiNavigator.Path

variable {conv : Convention} {fs : FileSystem} {root extension : Text} {p : Path}

/-- What a probe finds for a text in normal form is in normal form. -/
lemma View.canonical_probe (fs : FileSystem) (hp : p.IsCanonical)
    (hextension : isExtension extension = true) (policy : Probe) :
    canonical (probe fs extension policy p.print) = probe fs extension policy p.print := by
  rcases policy with - | -
  · exact hp.canonical_append hextension
  · obtain ⟨directory, base, hdirectory, hslash, hback, hsplit, -⟩ := hp.exists_splitLast
    have hjoin : ∀ name, '/' ∉ name → '\\' ∉ name →
        canonical (joinText directory.spell (name ++ extension))
          = joinText directory.spell (name ++ extension) := by
      intro name hslash hback
      have hname : IsPlain (name ++ extension) := isPlain_append hslash hback hextension
      rw [hdirectory.clean.joinText_spell hname.isName, ← print_under (List.cons_ne_nil _ _)]
      exact (hdirectory.child hname).canonical
    have hmarked := hjoin (underscored base) (notMem_underscored (by decide) hslash)
      (notMem_underscored (by decide) hback)
    unfold probe
    rw [hsplit]
    dsimp only
    split
    · exact hmarked
    · split
      · exact hjoin base hslash hback
      · exact hmarked

/-- **Resolved paths are in normal form.** A text is in normal form exactly when it is that of a
canonical path: one without backslashes and without segments that are empty or stay in place, whose
segments that lead up stand in front and only in a relative path; the relative path without segments
is spelled `.`. The file of a view name by any probe, that of a layout, and the file or the
directory of an import are in normal form. -/
theorem canonical_of_resolved (conv : Convention) (fs : FileSystem) :
    (∀ text, canonical text = text ↔ ∃ p : Path, p.IsCanonical ∧ p.print = text)
      ∧ (∀ roots root name policy, ∀ path ∈ View.file? conv fs roots root name policy,
        canonical path = path)
      ∧ (∀ root path name,
        canonical (Layout.file conv fs root path name) = Layout.file conv fs root path name)
      ∧ ∀ root dotted, ∀ path ∈ Import.path? conv fs root dotted, canonical path = path := by
  have hprint : ∀ text, ∃ p : Path, p.IsCanonical ∧ p.print = canonical text := fun text =>
    ⟨read (canonical text), isCanonical_read text, by rw [read_canonical]; rfl⟩
  have hcanonical : ∀ text, canonical (canonical text) = canonical text := fun text =>
    canonical_eq_self_iff.2 (hprint text)
  refine ⟨fun text => canonical_eq_self_iff, ?_, fun root path name => ?_, ?_⟩
  · intro roots root name policy path hpath
    obtain ⟨-, spelled, -, rfl⟩ := View.file?_eq_some_iff.1 hpath
    obtain ⟨p, hp, hspelled⟩ := hprint spelled
    rw [← hspelled]
    exact View.canonical_probe fs hp conv.viewExtension_valid policy
  · by_cases hrooted : Layout.IsRooted name
    · rw [Layout.file_of_isRooted hrooted]
      exact hcanonical _
    · have hfile : Layout.file conv fs root path name = _ ∨ _ :=
        Layout.file_of_not_isRooted hrooted
      rcases hfile with heq | ⟨_, -, heq⟩
      · rw [heq]
        exact hcanonical _
      · rw [heq]
        exact hcanonical _
  · intro root dotted path hpath
    unfold Import.path? at hpath
    split at hpath
    · obtain ⟨spelled, -, rfl⟩ := Option.map_eq_some_iff.1 hpath
      exact hcanonical spelled
    · obtain ⟨spelled, -, rfl⟩ := Option.map_eq_some_iff.1 hpath
      dsimp only
      split
      · exact hcanonical spelled
      · obtain ⟨p, hp, hspelled⟩ := hprint spelled
        rw [← hspelled]
        exact hp.canonical_append conv.viewExtension_valid

/-- A view name that leads up out of a relative directory, one that leads to the root, and an import
with parts that begin with slashes of both kinds. -/
theorem canonical_of_resolved_up :
    let fs := Store.empty.fileSystem ['/']
    let roots : ViewRoots := ⟨"views".toList, "/".toList, none⟩
    (View.file? .stock fs roots "/ws".toList "../..\\.\\".toList .preferExisting
          = some "_...php".toList
        ∧ canonical "_...php".toList = "_...php".toList)
      ∧ (View.file? .stock fs roots "/ws".toList "///..".toList .expectedPath
          = some "/.php".toList
        ∧ canonical "/.php".toList = "/.php".toList)
      ∧ (Import.path? .stock fs "//ws".toList "application./\\..x".toList
          = some "/x.php".toList
        ∧ canonical "/x.php".toList = "/x.php".toList) := by
  intro fs roots
  have hup : View.file? .stock fs roots "/ws".toList "../..\\.\\".toList .preferExisting
      = some "_...php".toList := by
    decide +kernel
  have hroot : View.file? .stock fs roots "/ws".toList "///..".toList .expectedPath
      = some "/.php".toList := by
    decide +kernel
  have himport : Import.path? .stock fs "//ws".toList "application./\\..x".toList
      = some "/x.php".toList := by
    decide +kernel
  obtain ⟨-, hview, -, hpath⟩ := canonical_of_resolved .stock fs
  exact ⟨⟨hup, hview roots _ _ _ _ hup⟩, ⟨hroot, hview roots _ _ _ _ hroot⟩,
    ⟨himport, hpath _ _ _ himport⟩⟩

end YiiNavigator
