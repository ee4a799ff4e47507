import YiiNavigator.Proofs.FileSystem.Mirror

/-!
# A disk and a store that mirrors it

A disk walks a tree, a store compares spelled paths. When a disk holds a tree of texts below a root
and a store mirrors that tree, both answer alike below the root, because both answer what is at a
position of the tree: what exists (`Disk.Holds.has_iff`, `Store.Mirrors.has_iff`), the text of a
file, and the files below a directory. Only a path that is too long tells them apart: a disk may
hold a file there, but it cannot be asked for it.
-/

namespace YiiNavigator

open YiiNavigator.Path

variable {d : Disk} {s : Store} {root : Path} {tree node : Node} {path ending content : Text}
  {names : List Text}

/-! ## Asking below a root -/

/-- Whether a text is a path at or below a root, without segments that lead up and without NUL
characters. It need not be in normal form. -/
structure Path.IsWithin (root : Path) (path : Text) : Prop where
  anchor : Anchor.read path = root.anchor
  below : root.segments <+: (read path).segments
  no_up : up ∉ (read path).segments
  no_nul : hasNul path = false

/-- A path at or below a root leads on from it by file names. -/
lemma Path.IsWithin.exists_under (h : IsWithin root path) : ∃ names, read path = root.under names
    ∧ (root.under names).print = normalizeText path ∧ up ∉ (root.under names).segments
    ∧ ∀ name ∈ names, IsFileName name := by
  obtain ⟨names, hnames⟩ := h.below
  have hread : read path = root.under names := by
    unfold Path.under
    rw [hnames, ← h.anchor]
    rfl
  refine ⟨names, hread, ?_, hread ▸ h.no_up, fun name hname => ?_⟩
  · rw [normalizeText, normalize_of_no_up h.no_up, hread]
  · have hmem : name ∈ (read path).segments := hnames ▸ List.mem_append_right _ hname
    exact ⟨isClean_read path name hmem, fun hup => h.no_up (hup ▸ hmem)⟩

/-! ## What a disk answers -/

namespace Disk

/-- Whether a disk has a tree of texts at a directory. -/
structure Holds (d : Disk) (root : Path) (tree : Node) : Prop where
  anchor : root.anchor = .root
  isFileName : ∀ name ∈ root.segments, IsFileName name
  at_root : d.root.at? root.segments = some tree
  isDirectory : tree.isDirectory = true
  isTextTree : tree.IsTextTree

/-- A disk lists what is below the node at a path. -/
lemma filesBelow_of_find (hne : path ≠ []) (hnul : hasNul path = false)
    (h : d.find path = .ok node) : d.filesBelow path ending = .ok (node.listing ending path) := by
  obtain ⟨c, cs, rfl⟩ := List.exists_cons_of_ne_nil hne
  simp [filesBelow, takenPath, hnul, h, bind, Except.bind]

/-- Below a path that leads nowhere a disk lists nothing. -/
lemma filesBelow_of_fault {fault : ReadFault} (hnul : hasNul path = false)
    (h : d.find path = .error fault) : d.filesBelow path ending = .ok [] := by
  simp [filesBelow, takenPath, hnul, h, bind, Except.bind]

/-- The text of a file is what its bytes spell, with its line ends unified. -/
lemma readText_of_find {bytes : List UInt8} (hnul : hasNul path = false)
    (h : d.find path = .ok (.file bytes)) :
    d.readText path = .ok (Text.unifyLineEnds (Text.decodeUtf8 bytes)) := by
  unfold readText takenPath
  rw [hnul]
  simp [Except.mapError, bind, Except.bind, h]

namespace Holds

lemma isNormal (h : d.Holds root tree) : root.IsNormal where
  anchored := by rw [h.anchor]; decide
  clean := fun name hname => (h.isFileName name hname).toIsName
  no_up := fun hup => (h.isFileName up hup).ne_up rfl

/-- Asking a disk below a root is going to a position, provided that the path is short enough. -/
lemma find_eq_ok_iff (h : d.Holds root tree) (hread : read path = root.under names)
    (hup : up ∉ (root.under names).segments) :
    d.find path = .ok node ↔ IsShort (root.under names).print ∧ tree.at? names = some node := by
  have hroute : d.route path = (root.under names).segments := by
    unfold Disk.route Path.append
    rw [hread, show (root.under names).anchor = .root from h.anchor]
  have hposition : d.root.at? (root.under names).segments = tree.at? names := by
    rw [Path.under, Node.at?_append, h.at_root, Option.bind_some]
  rw [Disk.find, hroute, hread]
  split
  · rename_i hlong
    constructor
    · intro heq
      cases heq
    · exact fun heq => absurd hlong (Nat.not_lt.2 heq.1)
  · rename_i hlong
    have hshort : IsShort (root.under names).print := Nat.le_of_not_lt hlong
    rw [and_iff_right hshort, Node.follow_eq_ok_iff hup, hposition, and_iff_left_iff_imp]
    rintro hfound rfl
    exact (h.isTextTree.at? hfound).1

/-- What exists on a disk below a root is what is at a position, provided that the path is short
enough. -/
lemma has_iff (h : d.Holds root tree) (hread : read path = root.under names)
    (hup : up ∉ (root.under names).segments) (hnul : hasNul path = false) :
    d.has path = true
      ↔ IsShort (root.under names).print ∧ ∃ node, tree.at? names = some node := by
  have hok : (d.find path).isOk = true ↔ ∃ node, d.find path = .ok node := by
    rcases d.find path with fault | node
    · exact ⟨fun heq => (nomatch heq), fun ⟨_, heq⟩ => (nomatch heq)⟩
    · exact ⟨fun _ => ⟨node, rfl⟩, fun _ => rfl⟩
  rw [has, hnul, Bool.not_false, Bool.true_and, hok, ← exists_and_left]
  exact exists_congr fun node => h.find_eq_ok_iff hread hup

/-- The text of a file below a root is that at a position, provided that the path is short
enough. -/
lemma readText_eq_ok_iff (h : d.Holds root tree) (hread : read path = root.under names)
    (hup : up ∉ (root.under names).segments) (hnul : hasNul path = false) :
    d.readText path = .ok content ↔ IsShort (root.under names).print
      ∧ tree.at? names = some (.file (Text.encodeUtf8 content)) := by
  rw [← h.find_eq_ok_iff hread hup]
  rcases hfind : d.find path with fault | node
  · simp [readText, takenPath, hnul, hfind, Except.mapError, bind, Except.bind]
  · obtain ⟨-, hat⟩ := (h.find_eq_ok_iff hread hup).1 hfind
    rcases hnode : node.isDirectory with - | -
    · -- the bytes of a file are those of a text, which is what is read
      obtain ⟨written, rfl, hwritten⟩ := (h.isTextTree.at? hat).1.exists_file hnode
      rw [readText_of_find hnul hfind, Text.decodeUtf8_encodeUtf8,
        Text.unifyLineEnds_eq_self hwritten, Except.ok.injEq, Except.ok.injEq, Node.file.injEq]
      exact ⟨congrArg _, Text.encodeUtf8_inj⟩
    · obtain ⟨entries, rfl⟩ := Node.isDirectory_iff.1 hnode
      simp [readText, takenPath, hnul, hfind, Except.mapError, bind, Except.bind]

/-- A disk lists the files at the positions below a directory, each once, and those alone whose
directories can be asked for. -/
lemma filesBelow (h : d.Holds root tree) (hnames : ∀ name ∈ names, IsFileName name)
    (hnul : hasNul (root.under names).print = false) (hending : '/' ∉ ending) :
    ∃ listed, d.filesBelow (root.under names).print ending = .ok listed ∧ listed.Nodup
      ∧ ∀ path, path ∈ listed
        ↔ tree.IsFileBelow root names ending path ∧ IsShort (parentText path) := by
  have hunder := h.isNormal.below hnames
  have hfind : ∀ node, d.find (root.under names).print = .ok node
      ↔ IsShort (root.under names).print ∧ tree.at? names = some node :=
    fun node => h.find_eq_ok_iff hunder.clean.read_print hunder.no_up
  rcases hnode : d.find (root.under names).print with fault | node
  · -- a file below would have a directory at the position, for which the disk can be asked
    refine ⟨[], filesBelow_of_fault hnul hnode, List.nodup_nil,
      fun path => ⟨fun hmem => absurd hmem List.not_mem_nil, ?_⟩⟩
    rintro ⟨⟨more, bytes, hmore, hat, rfl, -⟩, hparent⟩
    have hnamesMore := (h.isTextTree.at? hat).2
    obtain ⟨entries, htop⟩ := Node.exists_directory hat hmore
    rw [← under_under] at hparent
    have hshort := hunder.isShort (List.forall_mem_append.1 hnamesMore).2 hmore hparent
    rw [(hfind _).2 ⟨hshort, htop⟩] at hnode
    cases hnode
  · obtain ⟨-, hat⟩ := (hfind node).1 hnode
    have htree := (h.isTextTree.at? hat).1
    have hbelow : ∀ more, tree.at? (names ++ more) = node.at? more := fun more => by
      rw [Node.at?_append, hat, Option.bind_some]
    refine ⟨_, filesBelow_of_find (print_ne_nil hunder.anchored) hnul hnode,
      Node.nodup_listing hunder htree hending, fun path => ?_⟩
    rw [Node.mem_listing hunder htree hending]
    simp only [Node.IsFileBelow, hbelow, under_under, List.nil_append]

end Holds
end Disk

/-! ## Agreement -/

/-- **A disk and a store that mirrors what it holds agree on all paths that can be asked for.** At
and below the root, what exists on the disk is what exists in the store and is short enough, and so
it is with the texts of files; every file that the disk finds has a text. Below a directory both
list each file once, and the disk lists those of the store's files whose directories are short
enough. -/
theorem FileSystem.disk_agrees_store (hd : d.Holds root tree) (hs : s.Mirrors root tree)
    (cwd : Text) :
    (∀ path, IsWithin root path →
      (d.fileSystem.has path = true
        ↔ IsShort (normalizeText path) ∧ (s.fileSystem cwd).has path = true)
      ∧ (∀ content, d.fileSystem.readText path = .ok content
        ↔ IsShort (normalizeText path) ∧ (s.fileSystem cwd).readText path = .ok content)
      ∧ ∀ bytes, d.find path = .ok (.file bytes) →
        ∃ content, d.fileSystem.readText path = .ok content)
    ∧ ∀ directory ending, IsWithin root directory → normalizeText directory = directory →
        '/' ∉ ending → ∃ onDisk inStore,
          d.fileSystem.filesBelow directory ending = .ok onDisk
          ∧ (s.fileSystem cwd).filesBelow directory ending = .ok inStore
          ∧ onDisk.Nodup ∧ inStore.Nodup
          ∧ ∀ path, path ∈ onDisk ↔ path ∈ inStore ∧ IsShort (parentText path) := by
  refine ⟨fun path hpath => ?_, fun directory ending hdirectory hnormal hending => ?_⟩
  · obtain ⟨names, hread, hprint, hup, hnames⟩ := hpath.exists_under
    rw [← hprint]
    refine ⟨?_, fun content => ?_, fun bytes hfile => ⟨_, Disk.readText_of_find hpath.no_nul hfile⟩⟩
    · show d.has path = true ↔ _ ∧ s.has path = true
      rw [hd.has_iff hread hup hpath.no_nul, hs.has_iff hd.isNormal hd.isTextTree hnames hprint]
    · show d.readText path = .ok content ↔ _ ∧ s.readText path = .ok content
      rw [hd.readText_eq_ok_iff hread hup hpath.no_nul, Store.readText_eq_ok_iff,
        hs.textAt?_eq_some_iff hd.isNormal hd.isTextTree hnames hprint]
  · obtain ⟨names, -, hprint, -, hnames⟩ := hdirectory.exists_under
    obtain rfl : (root.under names).print = directory := hprint.trans hnormal
    obtain ⟨onDisk, hlisted, hnodup, hmem⟩ :=
      hd.filesBelow hnames hdirectory.no_nul hending
    obtain ⟨hnodupStore, hmemStore⟩ :
        (s.filesBelow (root.under names).print ending).Nodup ∧ _ :=
      hs.filesBelow hd.isNormal hd.isTextTree hnames hd.anchor hd.isDirectory
    exact ⟨onDisk, _, hlisted, rfl, hnodup, hnodupStore, fun path =>
      (hmem path).trans (and_congr_left' (hmemStore path).symm)⟩

/-- Two scripts, one of them in a subdirectory whose name begins that of the other. -/
def sampleTree : Node :=
  .directory (.cons "post".toList
    (.directory (.cons "View.php".toList (.file (Text.encodeUtf8 "<?php echo 'é';".toList))
      .nil))
    (.cons "post.php".toList (.file (Text.encodeUtf8 "<?php".toList)) .nil))

/-- A disk with the directory at `/ws`. -/
def sampleDisk : Disk :=
  ⟨.directory (.cons "ws".toList sampleTree .nil), "/".toList⟩

/-- The path of the directory. -/
def sampleRoot : Path :=
  ⟨.root, ["ws".toList]⟩

/-- A text in the subdirectory, asked for under a path with needless parts. -/
theorem FileSystem.disk_agrees_store_sample :
    let inMemory := Store.ofTree sampleRoot sampleTree
    sampleDisk.Holds sampleRoot sampleTree ∧ inMemory.Mirrors sampleRoot sampleTree
    ∧ (sampleDisk.fileSystem.has "/ws//post/./View.php".toList = true
        ↔ (inMemory.fileSystem ['/']).has "/ws//post/./View.php".toList = true)
    ∧ (∀ content, sampleDisk.fileSystem.readText "/ws//post/./View.php".toList = .ok content
        ↔ (inMemory.fileSystem ['/']).readText "/ws//post/./View.php".toList = .ok content)
    ∧ (∃ content, sampleDisk.fileSystem.readText "/ws//post/./View.php".toList = .ok content)
    ∧ ∃ onDisk inStore,
        sampleDisk.fileSystem.filesBelow "/ws/post".toList ".php".toList = .ok onDisk
        ∧ (inMemory.fileSystem ['/']).filesBelow "/ws/post".toList ".php".toList = .ok inStore
        ∧ onDisk.Nodup ∧ inStore.Nodup
        ∧ ∀ path, path ∈ onDisk ↔ path ∈ inStore ∧ IsShort (parentText path) := by
  intro inMemory
  have htree : sampleTree.IsTextTree := by
    simp only [sampleTree, Node.IsTextTree, Entries.AreTextTrees]
    refine ⟨⟨⟨by decide, by decide, by decide⟩, by decide⟩, rfl,
      ⟨⟨⟨by decide, by decide, by decide⟩, by decide⟩, rfl, ⟨_, rfl, by decide⟩, trivial⟩,
      ⟨⟨by decide, by decide, by decide⟩, by decide⟩, rfl, ⟨_, rfl, by decide⟩, trivial⟩
  have hroot : ∀ name ∈ sampleRoot.segments, IsFileName name :=
    List.forall_mem_singleton.2 ⟨⟨by decide, by decide, by decide⟩, by decide⟩
  have hd : sampleDisk.Holds sampleRoot sampleTree := ⟨rfl, hroot, rfl, rfl, htree⟩
  have hs : inMemory.Mirrors sampleRoot sampleTree :=
    Store.mirrors_ofTree hd.isNormal htree rfl
  have hpath : IsWithin sampleRoot "/ws//post/./View.php".toList :=
    ⟨by decide, by decide, by decide, by decide⟩
  have hshort : IsShort (normalizeText "/ws//post/./View.php".toList) := by decide
  have hdirectory : IsWithin sampleRoot "/ws/post".toList :=
    ⟨by decide, by decide, by decide, by decide⟩
  obtain ⟨hfiles, hbelow⟩ := FileSystem.disk_agrees_store hd hs ['/']
  obtain ⟨hhas, hread, htext⟩ := hfiles _ hpath
  exact ⟨hd, hs, hhas.trans (and_iff_right hshort),
    fun content => (hread content).trans (and_iff_right hshort), htext _ rfl,
    hbelow _ _ hdirectory (by decide) (by decide)⟩

/-- A file whose path is too long is in the store, but the disk cannot be asked for it. -/
lemma FileSystem.file_only_inStore (hd : d.Holds root tree) (hs : s.Mirrors root tree) (cwd : Text)
    (hat : tree.at? names = some (.file (Text.encodeUtf8 content)))
    (hnul : hasNul (root.under names).print = false) (hlong : ¬IsShort (root.under names).print) :
    IsWithin root (root.under names).print
    ∧ d.fileSystem.has (root.under names).print = false
    ∧ (s.fileSystem cwd).has (root.under names).print = true
    ∧ (∀ text, d.fileSystem.readText (root.under names).print ≠ .ok text)
    ∧ (s.fileSystem cwd).readText (root.under names).print = .ok content := by
  have hnames := (hd.isTextTree.at? hat).2
  have hunder := hd.isNormal.below hnames
  have hread := hunder.clean.read_print
  have hprint := hunder.normalizeText.symm
  refine ⟨⟨?_, ?_, ?_, hnul⟩, ?_, ?_, fun text htext => ?_, ?_⟩
  · exact congrArg Path.anchor hread
  · rw [hread]
    exact List.prefix_append _ _
  · rw [hread]
    exact hunder.no_up
  · exact Bool.eq_false_iff.2 fun h => hlong ((hd.has_iff hread hunder.no_up hnul).1 h).1
  · exact (hs.has_iff hd.isNormal hd.isTextTree hnames hprint).2 ⟨_, hat⟩
  · exact hlong ((hd.readText_eq_ok_iff hread hunder.no_up hnul).1 htext).1
  · exact Store.readText_eq_ok_iff.2
      ((hs.textAt?_eq_some_iff hd.isNormal hd.isTextTree hnames hprint).2 hat)

/-- A file whose directory is too long is listed by the store only. -/
lemma FileSystem.listed_only_inStore (hd : d.Holds root tree) (hs : s.Mirrors root tree)
    (cwd : Text) (hat : tree.at? names = some (.file (Text.encodeUtf8 content)))
    (hnul : hasNul root.print = false)
    (hlong : ¬IsShort (parentText (root.under names).print)) (hending : '/' ∉ ending)
    (hsuffix : ending <:+ (root.under names).print) :
    ∃ onDisk inStore, d.fileSystem.filesBelow root.print ending = .ok onDisk
      ∧ (s.fileSystem cwd).filesBelow root.print ending = .ok inStore
      ∧ (root.under names).print ∉ onDisk ∧ (root.under names).print ∈ inStore := by
  have hnone : ∀ name ∈ ([] : List Text), IsFileName name :=
    fun name h => absurd h List.not_mem_nil
  have hroot : root.under [] = root := under_nil
  obtain ⟨onDisk, hlisted, -, hmem⟩ := hd.filesBelow hnone (hroot.symm ▸ hnul) hending
  obtain ⟨-, hmemStore⟩ : _ ∧ ∀ path, path ∈ s.filesBelow (root.under []).print ending ↔ _ :=
    hs.filesBelow hd.isNormal hd.isTextTree hnone hd.anchor hd.isDirectory
  rw [hroot] at hlisted hmemStore
  refine ⟨onDisk, _, hlisted, rfl, fun h => hlong ((hmem _).1 h).2, (hmemStore _).2 ?_⟩
  exact ⟨names, _, Node.ne_nil_of_at?_file hd.isDirectory hat, hat, rfl, hsuffix⟩

/-- Directories of one name inside each other, with a script in the innermost. -/
def nestedTree (name : Text) : ℕ → Node
  | 0 => .directory (.cons "x.php".toList (.file (Text.encodeUtf8 "<?php".toList)) .nil)
  | depth + 1 => .directory (.cons name (nestedTree name depth) .nil)

/-- The names that lead to the script. -/
def nestedNames (name : Text) (depth : ℕ) : List Text :=
  List.replicate depth name ++ ["x.php".toList]

lemma isTextTree_nestedTree {name : Text} (h : IsFileName name) (depth : ℕ) :
    (nestedTree name depth).IsTextTree := by
  induction depth with
  | zero =>
    simp only [nestedTree, Node.IsTextTree, Entries.AreTextTrees]
    exact ⟨by decide, rfl, ⟨_, rfl, by decide⟩, trivial⟩
  | succ depth ih =>
    simp only [nestedTree, Node.IsTextTree, Entries.AreTextTrees]
    exact ⟨h, rfl, ih, trivial⟩

lemma at?_nestedTree (name : Text) (depth : ℕ) :
    (nestedTree name depth).at? (nestedNames name depth)
      = some (.file (Text.encodeUtf8 "<?php".toList)) := by
  induction depth with
  | zero => rfl
  | succ depth ih =>
    refine Node.at?_cons_eq_some_iff.2 ⟨nestedTree name depth, ?_, ih⟩
    exact if_pos rfl

/-- A name of 250 characters; seventeen of them make a path too long. -/
def longName : Text :=
  List.replicate 250 'd'

/-- A disk with seventeen directories inside each other at `/ws`. -/
def deepDisk : Disk :=
  ⟨.directory (.cons "ws".toList (nestedTree longName 17) .nil), "/".toList⟩

/-- The path of the script in the innermost of them. -/
def deepFile : Text :=
  (sampleRoot.under (nestedNames longName 17)).print

/-- A file whose path is too long is in the store, but the disk cannot be asked for it, and does not
list it. -/
theorem FileSystem.disk_differs_store :
    let inMemory := Store.ofTree sampleRoot (nestedTree longName 17)
    deepDisk.Holds sampleRoot (nestedTree longName 17)
    ∧ inMemory.Mirrors sampleRoot (nestedTree longName 17)
    ∧ IsWithin sampleRoot deepFile
    ∧ deepDisk.fileSystem.has deepFile = false ∧ (inMemory.fileSystem ['/']).has deepFile = true
    ∧ (∀ content, deepDisk.fileSystem.readText deepFile ≠ .ok content)
    ∧ (inMemory.fileSystem ['/']).readText deepFile = .ok "<?php".toList
    ∧ IsWithin sampleRoot "/ws".toList ∧ normalizeText "/ws".toList = "/ws".toList
    ∧ ∃ onDisk inStore,
        deepDisk.fileSystem.filesBelow "/ws".toList ".php".toList = .ok onDisk
        ∧ (inMemory.fileSystem ['/']).filesBelow "/ws".toList ".php".toList = .ok inStore
        ∧ deepFile ∉ onDisk ∧ deepFile ∈ inStore := by
  intro inMemory
  have htree : (nestedTree longName 17).IsTextTree := isTextTree_nestedTree (by decide +kernel) 17
  have hroot : ∀ name ∈ sampleRoot.segments, IsFileName name :=
    List.forall_mem_singleton.2 ⟨⟨by decide, by decide, by decide⟩, by decide⟩
  have hd : deepDisk.Holds sampleRoot (nestedTree longName 17) := ⟨rfl, hroot, rfl, rfl, htree⟩
  have hs : inMemory.Mirrors sampleRoot (nestedTree longName 17) :=
    Store.mirrors_ofTree hd.isNormal htree rfl
  have hat := at?_nestedTree longName 17
  obtain ⟨hwithin, hdisk, hstore, hunread, htext⟩ :=
    FileSystem.file_only_inStore hd hs ['/'] hat (by decide +kernel) (by decide +kernel)
  have hlisted := FileSystem.listed_only_inStore hd hs ['/'] hat (by decide) (by decide +kernel)
    (show '/' ∉ ".php".toList by decide)
    (List.isSuffixOf_iff_suffix.1 (by decide +kernel))
  exact ⟨hd, hs, hwithin, hdisk, hstore, hunread, htext,
    ⟨rfl, List.prefix_rfl, by decide, by decide⟩, by decide, hlisted⟩

end YiiNavigator
