import YiiNavigator.Proofs.FileSystem.Keys
import YiiNavigator.Proofs.FileSystem.Listing
import YiiNavigator.Proofs.Text.Utf8

/-!
# Stores that mirror a tree

A store mirrors a tree below a root when it has the texts of the tree's files under their paths and
the same directories. Such a store answers what the tree tells about its positions, and the store
that is built of a tree's texts and directories is one (`mirrors_ofTree`).
-/

namespace YiiNavigator

open YiiNavigator.Path

variable {s : Store} {root p : Path} {tree : Node} {d path ending content : Text}
  {names : List Text}

namespace Store

/-- Whether the files of a store are those of a tree below a root, and so are its directories at and
below the root. A store has the directories above the root too, which the tree says nothing of. -/
structure Mirrors (s : Store) (root : Path) (tree : Node) : Prop where
  files : (s.files.map fun file => (file.1, Text.encodeUtf8 file.2)).Perm (tree.files root)
  directories : ∀ names, (∀ name ∈ names, IsFileName name) →
    ((root.under names).print ∈ s.directories ↔ (root.under names).print ∈ tree.directories root)

/-! ## What a mirror answers -/

namespace Mirrors

lemma mem_files (h : s.Mirrors root tree) (htree : tree.IsTextTree) :
    (path, content) ∈ s.files ↔ ∃ names,
      tree.at? names = some (.file (Text.encodeUtf8 content))
        ∧ path = (root.under names).print := by
  rw [← Node.mem_files htree, ← h.files.mem_iff, List.mem_map]
  constructor
  · exact fun hmem => ⟨_, hmem, rfl⟩
  · rintro ⟨⟨found, text⟩, hmem, heq⟩
    rw [Prod.mk.injEq] at heq
    obtain ⟨rfl, htext⟩ := heq
    rwa [← Text.encodeUtf8_inj htext]

lemma nodup (h : s.Mirrors root tree) (hroot : root.IsClean) (htree : tree.IsTextTree) :
    (s.files.map (·.1)).Nodup := by
  have hperm := h.files.map (·.1)
  rw [List.map_map] at hperm
  exact hperm.nodup_iff.2 (Node.nodup_files hroot htree)

/-- The files of a mirror have paths of their own, in normal form. -/
lemma isKeyed (h : s.Mirrors root tree) (hroot : root.IsNormal) (htree : tree.IsTextTree) :
    s.IsKeyed where
  normal := by
    rw [List.forall_mem_map]
    rintro ⟨path, content⟩ hfile
    obtain ⟨names, hat, rfl⟩ := (h.mem_files htree).1 hfile
    exact (hroot.below (htree.at? hat).2).normalizeText
  nodup := h.nodup hroot.clean htree

variable (h : s.Mirrors root tree) (hroot : root.IsNormal) (htree : tree.IsTextTree)
  (hnames : ∀ name ∈ names, IsFileName name)

include h hroot htree hnames

lemma mem_files_under : ((root.under names).print, content) ∈ s.files
    ↔ tree.at? names = some (.file (Text.encodeUtf8 content)) := by
  rw [h.mem_files htree]
  constructor
  · rintro ⟨others, hat, hothers⟩
    rwa [htree.names_eq hroot hnames hat hothers]
  · exact fun hat => ⟨names, hat, rfl⟩

lemma mem_directories_under : (root.under names).print ∈ s.directories
    ↔ ∃ entries, tree.at? names = some (.directory entries) := by
  rw [h.directories names hnames, Node.mem_directories htree]
  constructor
  · rintro ⟨others, entries, hat, hothers⟩
    rw [htree.names_eq hroot hnames hat hothers]
    exact ⟨entries, hat⟩
  · exact fun ⟨entries, hat⟩ => ⟨names, entries, hat, rfl⟩

lemma textAt?_eq_some_iff (hpath : (root.under names).print = normalizeText path) :
    s.textAt? path = some content
      ↔ tree.at? names = some (.file (Text.encodeUtf8 content)) := by
  rw [(h.isKeyed hroot htree).textAt?_eq_some_iff, ← hpath, h.mem_files_under hroot htree hnames]

/-- What exists in a mirror is what is at a position. -/
lemma has_iff (hpath : (root.under names).print = normalizeText path) :
    s.has path = true ↔ ∃ node, tree.at? names = some node := by
  rw [has, Bool.or_eq_true, Option.isSome_iff_exists, List.elem_iff, ← hpath,
    h.mem_directories_under hroot htree hnames]
  simp only [h.textAt?_eq_some_iff hroot htree hnames hpath]
  constructor
  · rintro (⟨content, hat⟩ | ⟨entries, hat⟩)
    · exact ⟨_, hat⟩
    · exact ⟨_, hat⟩
  · rintro ⟨node, hat⟩
    rcases hnode : node.isDirectory with - | -
    · obtain ⟨content, rfl, -⟩ := (htree.at? hat).1.exists_file hnode
      exact .inl ⟨content, hat⟩
    · obtain ⟨entries, rfl⟩ := Node.isDirectory_iff.1 hnode
      exact .inr ⟨entries, hat⟩

/-- A mirror lists the files at the positions below a directory, each once. -/
lemma filesBelow (hanchor : root.anchor = .root) (htop : tree.isDirectory = true) :
    (s.filesBelow (root.under names).print ending).Nodup
      ∧ ∀ path, path ∈ s.filesBelow (root.under names).print ending
        ↔ Node.IsFileBelow root tree names ending path := by
  have hkeyed := h.isKeyed hroot htree
  -- the path of a file has names below the root, so that its text can be told from a front alone
  have hread : ∀ path ∈ s.files.map (·.1),
      (read path).anchor = .root ∧ (read path).segments ≠ [] := by
    rw [List.forall_mem_map]
    rintro ⟨path, content⟩ hfile
    obtain ⟨others, hat, rfl⟩ := (h.mem_files htree).1 hfile
    rw [(hroot.below (htree.at? hat).2).clean.read_print]
    exact ⟨hanchor,
      List.append_ne_nil_of_right_ne_nil root.segments (Node.ne_nil_of_at?_file htop hat)⟩
  refine ⟨hkeyed.nodup_filesBelow, fun path => ?_⟩
  rw [hkeyed.mem_filesBelow (hroot.below hnames) hanchor fun _ => hread]
  constructor
  · rintro ⟨hpath, ⟨more, hmore, hunder⟩, hsuffix⟩
    obtain ⟨⟨path, content⟩, hfile, rfl⟩ := List.mem_map.1 hpath
    obtain ⟨others, hat, rfl⟩ := (h.mem_files htree).1 hfile
    rw [(hroot.below (htree.at? hat).2).clean.read_print, under_under] at hunder
    obtain rfl : others = names ++ more := List.append_cancel_left (congrArg Path.segments hunder)
    exact ⟨more, _, hmore, hat, rfl, hsuffix⟩
  · rintro ⟨more, bytes, hmore, hat, rfl, hsuffix⟩
    obtain ⟨content, rfl, -⟩ := (htree.at? hat).1
    refine ⟨List.mem_map_of_mem ((h.mem_files htree).2 ⟨_, hat, rfl⟩), ⟨more, hmore, ?_⟩, hsuffix⟩
    rw [(hroot.below (htree.at? hat).2).clean.read_print, under_under]

end Mirrors

/-! ## Building a mirror -/

/-- The store of the texts and the directories of a tree. -/
def ofTree (root : Path) (tree : Node) : Store :=
  build ((tree.files root).map fun file => (file.1, Text.decodeUtf8 file.2))
    (tree.directories root)

/-- A file that is added under a new path in normal form comes to the others. -/
lemma files_addFile_of_notMem (hnormal : normalizeText path = path)
    (h : path ∉ s.files.map (·.1)) :
    (s.addFile path content).files = s.files ++ [(path, content)] := by
  have hkept : s.files.filter (fun file => !(file.1 == path)) = s.files := by
    refine List.filter_eq_self.2 fun file hfile => ?_
    have hne : file.1 ≠ path := fun heq => h (heq ▸ List.mem_map_of_mem hfile)
    rw [beq_eq_false_iff_ne.2 hne]
    rfl
  unfold addFile
  rw [hnormal, files_addDirectory, hkept]

/-- Files with different paths in normal form are the files of the store that is built of them. -/
lemma files_build {files : List (Text × Text)} (directories : List Text)
    (hnormal : ∀ file ∈ files, normalizeText file.1 = file.1) (hnodup : (files.map (·.1)).Nodup) :
    (build files directories).files = files := by
  have hstart : (directories.foldl addDirectory empty).files = [] := by
    induction directories using List.reverseRecOn with
    | nil => rfl
    | append_singleton front path ih => rwa [List.foldl_concat, files_addDirectory]
  unfold build
  induction files using List.reverseRecOn with
  | nil => exact hstart
  | append_singleton front file ih =>
    obtain ⟨hfront, hfile⟩ := List.forall_mem_append.1 hnormal
    rw [List.map_append, List.nodup_append'] at hnodup
    obtain ⟨hnodup, -, hdisjoint⟩ := hnodup
    have hrest := ih hfront hnodup
    rw [List.foldl_concat, files_addFile_of_notMem, hrest]
    · exact hfile file List.mem_cons_self
    · rw [hrest]
      exact fun hmem => hdisjoint hmem List.mem_cons_self

/-- The directory that comes with an addition, as it is spelled. -/
def Change.added : Change → Text
  | .file added _ => parentText (normalizeText added)
  | .directory added => added

lemma IsClosed.mem_directories_changeAll (hs : s.IsClosed) (history : List Change) :
    d ∈ (s.changeAll history).directories
      ↔ d ∈ s.directories ∨ ∃ c ∈ history, IsAbove d (normalizeText c.added) := by
  have hchange : ∀ {s : Store}, s.IsClosed → ∀ c : Change, d ∈ (s.change c).directories
      ↔ d ∈ s.directories ∨ IsAbove d (normalizeText c.added) := by
    intro s hs c
    rcases c with ⟨added, text⟩ | added
    · rw [show s.change (.file added text) = s.addFile added text from rfl, directories_addFile]
      exact hs.mem_addDirectory
    · exact hs.mem_addDirectory
  induction history generalizing s with
  | nil => simp [Store.changeAll]
  | cons c history ih =>
    refine (ih (hs.change c)).trans ?_
    rw [hchange hs, or_assoc, List.exists_mem_cons_iff]

/-- What is above a directory of a tree, as far down as the root, is one of its directories. -/
lemma exists_directory_of_isAbove (hroot : root.IsNormal) (htree : tree.IsTextTree)
    (hnames : ∀ name ∈ names, IsFileName name) {below : List Text} {entries : Entries}
    (hat : tree.at? below = some (.directory entries))
    (h : IsAbove (root.under names).print (root.under below).print) :
    ∃ entries, tree.at? names = some (.directory entries) := by
  have hbelow := hroot.below (htree.at? hat).2
  obtain ⟨front, more, hsegments, hprint⟩ := hbelow.clean.exists_of_isAbove hbelow.anchored h
  have hfront : IsClean ⟨root.anchor, front⟩ := fun name hname =>
    hbelow.clean name (hsegments ▸ List.mem_append_left _ hname)
  have hsame := congrArg Path.segments ((hroot.below hnames).clean.print_inj hfront hprint)
  obtain rfl : below = names ++ more := by
    have hbelow : root.segments ++ below = root.segments ++ names ++ more :=
      hsegments.trans (congrArg (· ++ more) hsame.symm)
    rw [List.append_assoc] at hbelow
    exact List.append_cancel_left hbelow
  by_cases hmore : more = []
  · rw [hmore, List.append_nil] at hat
    exact ⟨entries, hat⟩
  · exact Node.exists_directory hat hmore

/-- The path of a file of a tree is in normal form, and its bytes are those of its text. -/
lemma normal_of_mem_files (hroot : root.IsNormal) (htree : tree.IsTextTree)
    {file : Text × List UInt8} (h : file ∈ tree.files root) : normalizeText file.1 = file.1
      ∧ Text.encodeUtf8 (Text.decodeUtf8 file.2) = file.2 := by
  obtain ⟨path, bytes⟩ := file
  obtain ⟨names, hat, rfl⟩ := (Node.mem_files htree).1 h
  obtain ⟨⟨content, rfl, -⟩, hnames⟩ := htree.at? hat
  exact ⟨(hroot.below hnames).normalizeText, by rw [Text.decodeUtf8_encodeUtf8]⟩

lemma files_ofTree (hroot : root.IsNormal) (htree : tree.IsTextTree) : (ofTree root tree).files
    = (tree.files root).map fun file => (file.1, Text.decodeUtf8 file.2) := by
  refine files_build _
    (List.forall_mem_map.2 fun file h => (normal_of_mem_files hroot htree h).1) ?_
  rw [List.map_map]
  exact Node.nodup_files hroot.clean htree

/-- The directories that are added for a tree are directories of the tree: those that hold a file
come with the file. -/
lemma exists_directory_of_added (hroot : root.IsNormal) (htree : tree.IsTextTree)
    (htop : tree.isDirectory = true) {c : Change}
    (hc : c ∈ additions ((tree.files root).map fun file => (file.1, Text.decodeUtf8 file.2))
      (tree.directories root) []) :
    ∃ below entries, tree.at? below = some (.directory entries)
      ∧ normalizeText c.added = (root.under below).print := by
  rw [additions, List.append_nil, List.mem_append, List.map_map, List.mem_map, List.mem_map] at hc
  rcases hc with ⟨path, hpath, rfl⟩ | ⟨⟨path, bytes⟩, hfile, rfl⟩
  · obtain ⟨below, entries, hat, rfl⟩ := (Node.mem_directories htree).1 hpath
    exact ⟨below, entries, hat, (hroot.below (htree.at? hat).2).normalizeText⟩
  · have hnormal := (normal_of_mem_files hroot htree hfile).1
    obtain ⟨below, hat, rfl⟩ := (Node.mem_files htree).1 hfile
    obtain ⟨front, name, rfl⟩ :=
      (List.eq_nil_or_concat' below).resolve_left (Node.ne_nil_of_at?_file htop hat)
    obtain ⟨hfront, hname⟩ := List.forall_mem_append.1 (htree.at? hat).2
    obtain ⟨entries, hparent⟩ := Node.exists_directory hat (List.cons_ne_nil _ _)
    refine ⟨front, entries, hparent, ?_⟩
    show normalizeText (parentText (normalizeText (root.under (front ++ [name])).print)) = _
    rw [hnormal, ← under_under]
    exact (hroot.below hfront).normalizeText_parentText (hname name List.mem_cons_self).toIsName

/-- **The store that is built of a tree's texts and directories mirrors the tree.** -/
theorem mirrors_ofTree (hroot : root.IsNormal) (htree : tree.IsTextTree)
    (htop : tree.isDirectory = true) : (ofTree root tree).Mirrors root tree where
  files := by
    rw [files_ofTree hroot htree, List.map_map]
    refine .of_eq ((List.map_congr_left fun file h => ?_).trans (List.map_id _))
    exact Prod.ext rfl (normal_of_mem_files hroot htree h).2
  directories names hnames := by
    have hnormal := hroot.below hnames
    have hbuild : ofTree root tree = empty.changeAll (additions _ _ []) := changeAll_build _ _ []
    have hempty : (root.under names).print ∉ empty.directories := List.not_mem_nil
    rw [hbuild, isClosed_empty.mem_directories_changeAll, or_iff_right hempty]
    constructor
    · rintro ⟨c, hc, habove⟩
      obtain ⟨below, entries, hat, hadded⟩ := exists_directory_of_added hroot htree htop hc
      rw [hadded] at habove
      obtain ⟨entries, hat⟩ := exists_directory_of_isAbove hroot htree hnames hat habove
      exact (Node.mem_directories htree).2 ⟨names, entries, hat, rfl⟩
    · intro hmem
      refine ⟨.directory (root.under names).print, ?_, ?_⟩
      · rw [additions, List.append_nil]
        exact List.mem_append_left _ (List.mem_map_of_mem hmem)
      · rw [Change.added, hnormal.normalizeText]
        exact ⟨print_ne_nil hnormal.anchored, 0, rfl⟩

end Store
end YiiNavigator
