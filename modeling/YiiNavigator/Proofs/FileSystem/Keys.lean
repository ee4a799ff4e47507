import YiiNavigator.Proofs.FileSystem.History
import YiiNavigator.Proofs.Path.Below
import YiiNavigator.Proofs.Path.NormalForm
import YiiNavigator.Proofs.Text.Order

/-!
# The paths of a store's files

However a store comes about, each of its files has a path of its own, in normal form
(`isKeyed_changeAll_build`). So what is read under a path is its file, and the files that are
listed below a directory, which are told by their texts alone, are those whose paths lead on from
the directory's.
-/

namespace YiiNavigator

open YiiNavigator.Path

namespace Store

variable {s : Store} {p : Path} {path content directory ending : Text} {names : List Text}

/-! ## The invariant -/

/-- Whether the paths of the files of a store are different and in normal form. -/
structure IsKeyed (s : Store) : Prop where
  normal : ∀ path ∈ s.files.map (·.1), normalizeText path = path
  nodup : (s.files.map (·.1)).Nodup

lemma isKeyed_empty : empty.IsKeyed :=
  ⟨fun _ h => absurd h List.not_mem_nil, List.nodup_nil⟩

/-- A file that is added has its path alone: the one that had the path before gives way. -/
lemma map_files_addFile (s : Store) (path content : Text) :
    (s.addFile path content).files.map (·.1)
      = (s.files.map (·.1)).filter (fun other => !(other == normalizeText path))
        ++ [normalizeText path] := by
  rw [addFile, files_addDirectory, List.map_append, List.filter_map]
  rfl

lemma IsKeyed.addFile (hs : s.IsKeyed) (path content : Text) :
    (s.addFile path content).IsKeyed := by
  constructor
  · intro other hother
    rw [map_files_addFile] at hother
    rcases List.mem_append.1 hother with hother | hother
    · exact hs.normal other (List.mem_filter.1 hother).1
    · rw [List.mem_singleton.1 hother]
      exact normalizeText_normalizeText path
  · rw [map_files_addFile, List.nodup_append']
    refine ⟨hs.nodup.filter _, List.nodup_singleton _, fun other hother hsame => ?_⟩
    rw [List.mem_singleton.1 hsame] at hother
    simp at hother

lemma IsKeyed.change (hs : s.IsKeyed) (c : Change) : (s.change c).IsKeyed := by
  rcases c with ⟨path, content⟩ | path
  · exact hs.addFile path content
  · exact ⟨hs.normal, hs.nodup⟩

lemma IsKeyed.changeAll (hs : s.IsKeyed) (changes : List Change) :
    (s.changeAll changes).IsKeyed := by
  induction changes generalizing s with
  | nil => exact hs
  | cons c changes ih => exact ih (hs.change c)

/-- The files of a store that is built and changed have paths of their own, in normal form. -/
theorem isKeyed_changeAll_build (files : List (Text × Text)) (directories : List Text)
    (changes : List Change) : ((build files directories).changeAll changes).IsKeyed := by
  rw [changeAll_build]
  exact isKeyed_empty.changeAll _

lemma IsKeyed.normalize_read (hs : s.IsKeyed) (hpath : path ∈ s.files.map (·.1)) :
    (read path).normalize = read path := by
  rw [← read_normalizeText, hs.normal path hpath]

/-- The path of a file is printed as it is spelled. -/
lemma IsKeyed.print_read (hs : s.IsKeyed) (hpath : path ∈ s.files.map (·.1)) :
    (read path).print = path := by
  rw [← hs.normalize_read hpath]
  exact hs.normal path hpath

lemma IsKeyed.isNormal_read (hs : s.IsKeyed) (hpath : path ∈ s.files.map (·.1))
    (hanchor : (read path).anchor ≠ .relative) : (read path).IsNormal := by
  refine ⟨hanchor, isClean_read path, ?_⟩
  rw [← hs.normalize_read hpath]
  exact up_notMem_normalize hanchor

/-! ## What is read and listed -/

/-- What is under a path is its file. -/
lemma IsKeyed.textAt?_eq_some_iff (hs : s.IsKeyed) :
    s.textAt? path = some content ↔ (normalizeText path, content) ∈ s.files := by
  have hmem : ∀ text, s.textAt? path = some text → (normalizeText path, text) ∈ s.files := by
    intro text htext
    obtain ⟨before, after, hsplit, -⟩ := List.lookup_eq_some_iff.1 htext
    rw [hsplit]
    exact List.mem_append_right _ List.mem_cons_self
  refine ⟨hmem content, fun hfile => ?_⟩
  obtain ⟨text, htext⟩ := Option.isSome_iff_exists.1
    (textAt?_isSome_iff.2 (List.mem_map_of_mem hfile))
  -- only one file has the path, so that the text that is looked up is its text
  have hsame := List.inj_on_of_nodup_map hs.nodup (hmem text htext) hfile rfl
  rw [htext, (Prod.mk.inj hsame).2]

lemma IsKeyed.mem_files (hs : s.IsKeyed) : (path, content) ∈ s.files
    ↔ path ∈ s.files.map (·.1) ∧ s.textAt? path = some content := by
  have hnormal : path ∈ s.files.map (·.1) → (s.textAt? path = some content
      ↔ (path, content) ∈ s.files) := fun hpath => by
    rw [hs.textAt?_eq_some_iff, hs.normal path hpath]
  constructor
  · intro hfile
    have hpath : path ∈ s.files.map (·.1) := List.mem_map_of_mem hfile
    exact ⟨hpath, (hnormal hpath).2 hfile⟩
  · exact fun ⟨hpath, htext⟩ => (hnormal hpath).1 htext

lemma pairwise_filesBelow (s : Store) (directory ending : Text) :
    (s.filesBelow directory ending).Pairwise fun a b => Text.precedes a b = true :=
  Text.pairwise_sorted _

lemma IsKeyed.nodup_filesBelow (hs : s.IsKeyed) : (s.filesBelow directory ending).Nodup :=
  (Text.sorted_perm _).nodup_iff.2 (hs.nodup.filter _)

/-- The files that are listed below a directory are those whose paths lead on from its path and end
in the text that is asked for. Below the root all paths in normal form begin with its text, which
tells them apart from it and from the paths at another anchor no longer. -/
lemma IsKeyed.mem_filesBelow (hs : s.IsKeyed) (hp : p.IsNormal) (hanchor : p.anchor = .root)
    (hnames : p.segments = [] → ∀ path ∈ s.files.map (·.1),
      (read path).anchor = .root ∧ (read path).segments ≠ []) :
    path ∈ s.filesBelow p.print ending ↔ path ∈ s.files.map (·.1)
      ∧ (∃ names, names ≠ [] ∧ read path = p.under names) ∧ ending <:+ path := by
  unfold filesBelow
  rw [(Text.sorted_perm _).mem_iff, List.mem_filter, Bool.and_eq_true, List.isPrefixOf_iff_prefix,
    List.isSuffixOf_iff_suffix, hp.normalizeText]
  refine and_congr_right fun hpath => and_congr_left fun _ => ?_
  have hfront := hp.clean.front_prefix_iff (isClean_read path) hanchor
    fun hnil => hnames hnil path hpath
  rwa [hs.print_read hpath] at hfront

lemma IsKeyed.mem_filesBelow_under (hs : s.IsKeyed) (hp : (p.under names).IsNormal)
    (hanchor : p.anchor = .root) (hne : names ≠ []) :
    path ∈ s.filesBelow (p.under names).print ending ↔ path ∈ s.files.map (·.1)
      ∧ (∃ more, more ≠ [] ∧ read path = p.under (names ++ more)) ∧ ending <:+ path := by
  rw [hs.mem_filesBelow hp hanchor fun hnil => absurd hnil (by simp [Path.under, hne])]
  simp only [under_under]

end Store
end YiiNavigator
