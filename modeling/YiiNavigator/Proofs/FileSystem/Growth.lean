import YiiNavigator.FileSystem.Store
import Mathlib.Data.List.Basic

/-!
# Growing file systems

A file system grows into another one when everything that exists goes on existing. Adding files and
directories to a store, in any number and order, makes it grow.
-/

namespace YiiNavigator

/-! ## Growth -/

/-- Both file systems are asked from the same place, and what exists in the first one exists in
the second one. -/
structure FileSystem.Grows (before after : FileSystem) : Prop where
  workingDirectory : after.workingDirectory = before.workingDirectory
  has : ∀ path, before.has path = true → after.has path = true

namespace FileSystem.Grows

variable {first second third : FileSystem}

lemma refl (fs : FileSystem) : fs.Grows fs :=
  ⟨rfl, fun _ h => h⟩

lemma trans (h : first.Grows second) (h' : second.Grows third) : first.Grows third :=
  ⟨h'.workingDirectory.trans h.workingDirectory, fun path hpath => h'.has path (h.has path hpath)⟩

lemma not_has (h : first.Grows second) {path : Text} (hpath : ¬second.has path = true) :
    ¬first.has path = true :=
  fun hfirst => hpath (h.has path hfirst)

end FileSystem.Grows

namespace Store

/-! ## What exists in a store -/

/-- The path of a file is one that the store has a text under. -/
lemma textAt?_isSome_iff {s : Store} {path : Text} :
    (s.textAt? path).isSome = true ↔ Path.normalizeText path ∈ s.files.map (·.1) := by
  rw [textAt?, List.lookup_isSome_iff]
  simp only [beq_iff_eq, List.mem_map]
  exact ⟨fun ⟨file, hfile, heq⟩ => ⟨file, hfile, heq.symm⟩,
    fun ⟨file, hfile, heq⟩ => ⟨file, hfile, heq.symm⟩⟩

lemma has_iff {s : Store} {path : Text} :
    s.has path = true ↔ Path.normalizeText path ∈ s.files.map (·.1)
      ∨ Path.normalizeText path ∈ s.directories := by
  rw [has, Bool.or_eq_true, textAt?_isSome_iff, List.elem_iff]

lemma has_mono {s s' : Store} (hfiles : ∀ key ∈ s.files.map (·.1), key ∈ s'.files.map (·.1))
    (hdirectories : ∀ d ∈ s.directories, d ∈ s'.directories) {path : Text}
    (h : s.has path = true) : s'.has path = true := by
  rw [has_iff] at h ⊢
  exact h.imp (hfiles _) (hdirectories _)

/-! ## Changes of a store -/

/-- One addition to a store. -/
inductive Change where
  | file (path content : Text)
  | directory (path : Text)
deriving DecidableEq, Repr

/-- The store after one addition. -/
def change (s : Store) : Change → Store
  | .file path content => s.addFile path content
  | .directory path => s.addDirectory path

/-- The store after several additions, one after the other. -/
def changeAll (s : Store) (changes : List Change) : Store :=
  changes.foldl change s

lemma files_addDirectory (s : Store) (path : Text) : (s.addDirectory path).files = s.files :=
  rfl

lemma mem_directories_addDirectory {s : Store} {d : Text} (h : d ∈ s.directories) (path : Text) :
    d ∈ (s.addDirectory path).directories :=
  List.mem_append_left _ h

lemma has_addDirectory {s : Store} {p : Text} (h : s.has p = true) (path : Text) :
    (s.addDirectory path).has p = true :=
  has_mono (fun _ hkey => files_addDirectory s path ▸ hkey)
    (fun _ hd => mem_directories_addDirectory hd path) h

/-- A file that takes the place of another one leaves its path in the store. -/
lemma has_addFile {s : Store} {p : Text} (h : s.has p = true) (path content : Text) :
    (s.addFile path content).has p = true := by
  rw [addFile]
  refine has_addDirectory ?_ _
  refine has_mono ?_ (fun d => ?_) h
  · intro key hkey
    obtain ⟨file, hfile, rfl⟩ := List.mem_map.1 hkey
    rw [List.map_append, List.mem_append]
    by_cases hsame : file.1 = Path.normalizeText path
    · exact Or.inr (by simp [hsame])
    · refine Or.inl (List.mem_map.2 ⟨file, List.mem_filter.2 ⟨hfile, ?_⟩, rfl⟩)
      simp [hsame]
  · exact id

lemma grows_change (s : Store) (c : Change) (cwd : Text) :
    (s.fileSystem cwd).Grows ((s.change c).fileSystem cwd) := by
  rcases c with ⟨path, content⟩ | path
  · exact ⟨rfl, fun _ h => has_addFile h path content⟩
  · exact ⟨rfl, fun _ h => has_addDirectory h path⟩

lemma grows_changeAll (s : Store) (changes : List Change) (cwd : Text) :
    (s.fileSystem cwd).Grows ((s.changeAll changes).fileSystem cwd) := by
  induction changes generalizing s with
  | nil => exact .refl _
  | cons c changes ih => exact (grows_change s c cwd).trans (ih (s.change c))

end Store
end YiiNavigator
