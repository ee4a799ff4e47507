import YiiNavigator.Proofs.FileSystem.Tree

/-!
# What is listed of a tree

The files below a directory come sorted and directory by directory. But for the order, they are
those whose paths lead on from the directory's and end in the text that is asked for, the files of
directories whose paths are too long left out (`listing_perm`). So each position below the directory
is listed at most once.
-/

namespace YiiNavigator

open YiiNavigator.Path

variable {p : Path} {ending path : Text} {names : List Text} {node : Node} {entries : Entries}

/-! ## Paths that can be asked for -/

/-- Whether a path is short enough to be asked for. -/
def IsShort (path : Text) : Prop :=
  byteLength path ≤ longestPath

instance (path : Text) : Decidable (IsShort path) :=
  inferInstanceAs (Decidable (_ ≤ _))

lemma byteLength_append (a b : Text) : byteLength (a ++ b) = byteLength a + byteLength b := by
  unfold byteLength Text.encodeUtf8
  rw [List.flatMap_append, List.length_append]

/-- A path that leads on from one that is too long is too long as well. -/
lemma IsShort.of_under (hanchor : p.anchor ≠ .relative) (h : IsShort (p.under names).print) :
    IsShort p.print := by
  induction names generalizing p with
  | nil => rwa [under_nil] at h
  | cons name rest ih =>
    rw [← List.singleton_append, ← under_under] at h
    have hone : IsShort (p.under [name]).print := ih hanchor h
    rw [print_under_singleton hanchor] at hone
    unfold IsShort at hone ⊢
    split at hone
    · rw [byteLength_append] at hone
      omega
    · rw [byteLength_append] at hone
      omega

/-- A path leads on from directories that can all be asked for as soon as the last one can. -/
lemma Path.IsNormal.isShort (hp : p.IsNormal) (hnames : ∀ name ∈ names, IsFileName name)
    (hne : names ≠ []) (h : IsShort (parentText (p.under names).print)) : IsShort p.print := by
  obtain ⟨front, name, rfl⟩ := (List.eq_nil_or_concat' names).resolve_left hne
  obtain ⟨hfront, hname⟩ := List.forall_mem_append.1 hnames
  have hbelow := hp.below hfront
  rw [← under_under, hbelow.clean.parentText_print hbelow.anchored
    (hname name List.mem_cons_self).toIsName] at h
  exact h.of_under hp.anchored

namespace Node

/-! ## Listing -/

lemma listing_of_not_isDirectory (h : node.isDirectory = false) :
    node.listing ending path = [] := by
  rcases node with bytes | - | entries
  · rfl
  · rfl
  · cases h

/-- Whether a path ends in a given text and its directory can be asked for. -/
def isListed (ending path : Text) : Bool :=
  ending.isSuffixOf path && decide (IsShort (parentText path))

lemma isListed_iff : isListed ending path = true ↔ ending <:+ path ∧ IsShort (parentText path) := by
  rw [isListed, Bool.and_eq_true, List.isSuffixOf_iff_suffix, decide_eq_true_iff]

/-- What is listed below a directory: its files and those listed below its subdirectories. -/
lemma listing_directory_perm (h : IsShort path) :
    ((directory entries).listing ending path).Perm
      ((entries.toList.filter (·.2.isDirectory)).flatMap (fun e =>
          e.2.listing ending (joinText path e.1))
        ++ (entries.fileNames ending).map (joinText path)) := by
  rw [listing, if_neg (Nat.not_lt.2 h), Entries.listings_eq]
  refine List.perm_append_comm.trans (.append ?_ ((List.mergeSort_perm _ _).map _))
  refine ((List.mergeSort_perm _ _).flatMap_right _).trans ?_
  rw [List.flatMap_map]

/-- The files of a directory itself that are listed. -/
lemma map_fileNames (hp : p.IsNormal) (hshort : IsShort p.print) (h : entries.AreTextTrees)
    (hending : '/' ∉ ending) : (entries.fileNames ending).map (joinText p.print)
      = ((entries.toList.filter fun e => !e.2.isDirectory).flatMap fun e =>
          (e.2.files (p.under [e.1])).map (·.1)).filter (isListed ending) := by
  -- an entry that is no directory is a file, the only one at or below its own path
  have hfile : ∀ e ∈ entries.toList.filter fun e => !e.2.isDirectory,
      (e.2.files (p.under [e.1])).map (·.1) = [(p.under [e.1]).print] := by
    intro e he
    obtain ⟨he, hdirectory⟩ := List.mem_filter.1 he
    obtain ⟨content, hcontent, -⟩ :=
      (h.of_mem he).2.1.exists_file (by simpa using hdirectory)
    rw [hcontent]
    show [((p.under [e.1]).under []).print] = _
    rw [under_nil]
  have hjoin : ∀ e ∈ entries.toList, joinText p.print e.1 = (p.under [e.1]).print :=
    fun e he => hp.clean.joinText hp.anchored (h.of_mem he).1.toIsName
  have hsuffix : ∀ e ∈ entries.toList, (!e.2.isDirectory && ending.isSuffixOf e.1)
      = (isListed ending (p.under [e.1]).print && !e.2.isDirectory) := by
    intro e he
    rw [Bool.and_comm]
    congr 1
    rw [Bool.eq_iff_iff, isListed_iff, List.isSuffixOf_iff_suffix,
      hp.clean.parentText_print hp.anchored (h.of_mem he).1.toIsName,
      and_iff_left hshort, suffix_print_iff hp.anchored hending]
  rw [List.flatMap_congr hfile, ← List.map_eq_flatMap, List.filter_map, List.filter_filter,
    Entries.fileNames_eq, List.map_map, List.filter_congr hsuffix]
  exact List.map_congr_left fun e he => hjoin e (List.mem_filter.1 he).1

/-- Nothing is to be listed below a directory that cannot be asked for. -/
lemma filter_files_of_long (hp : p.IsNormal) (hnode : node.IsTextTree)
    (hdirectory : node.isDirectory = true) (hlong : ¬IsShort p.print) :
    ((node.files p).map (·.1)).filter (isListed ending) = [] := by
  refine List.filter_eq_nil_iff.2 (List.forall_mem_map.2 ?_)
  rintro ⟨path, bytes⟩ hfile hlisted
  obtain ⟨names, hat, rfl⟩ := (mem_files hnode).1 hfile
  exact hlong (hp.isShort (hnode.at? hat).2 (ne_nil_of_at?_file hdirectory hat)
    (isListed_iff.1 hlisted).2)

/-- But for the order, the files listed below a directory are those whose paths end in the text that
is asked for and whose directories can be asked for. -/
lemma listing_perm (hp : p.IsNormal) (hnode : node.IsTextTree)
    (hdirectory : node.isDirectory = true) (hending : '/' ∉ ending) :
    (node.listing ending p.print).Perm
      (((node.files p).map (·.1)).filter (isListed ending)) := by
  induction node using Node.induction generalizing p with
  | file bytes => cases hdirectory
  | brokenLink => cases hdirectory
  | directory entries ih =>
    have hentries : entries.AreTextTrees := hnode
    have hbelow : ∀ e ∈ entries.toList.filter (·.2.isDirectory),
        (e.2.listing ending (joinText p.print e.1)).Perm
          (((e.2.files (p.under [e.1])).map (·.1)).filter (isListed ending)) := by
      intro e he
      obtain ⟨he, hsub⟩ := List.mem_filter.1 he
      obtain ⟨hname, htree, -⟩ := hentries.of_mem he
      have hunder : (p.under [e.1]).IsNormal := hp.below (List.forall_mem_singleton.2 hname)
      rw [hp.clean.joinText hp.anchored hname.toIsName]
      exact ih e he hunder htree hsub
    rcases Nat.lt_or_ge longestPath (byteLength p.print) with hlong | hshort
    · rw [filter_files_of_long hp hnode hdirectory (Nat.not_le_of_lt hlong), listing, if_pos hlong]
    · -- what the subdirectories list and the files of the directory itself are the same filter of
      -- the entries' files, once for the directories among the entries and once for the rest
      refine (listing_directory_perm hshort).trans ?_
      rw [map_fileNames hp hshort hentries hending, files_directory, List.map_flatMap]
      refine ((List.Perm.flatMap_left _ hbelow).append_right _).trans ?_
      rw [← List.filter_flatMap, ← List.filter_append, ← List.flatMap_append]
      exact ((List.filter_append_perm _ _).flatMap_right _).filter _

/-- Whether a text is the path of a file of a tree below a position, and ends in a given text. -/
def IsFileBelow (p : Path) (node : Node) (names : List Text) (ending path : Text) : Prop :=
  ∃ more bytes, more ≠ [] ∧ node.at? (names ++ more) = some (file bytes)
    ∧ path = (p.under (names ++ more)).print ∧ ending <:+ path

/-- What is listed below a node is the files at the positions below it whose directories can be
asked for. -/
lemma mem_listing (hp : p.IsNormal) (hnode : node.IsTextTree) (hending : '/' ∉ ending) :
    path ∈ node.listing ending p.print
      ↔ node.IsFileBelow p [] ending path ∧ IsShort (parentText path) := by
  rcases hdirectory : node.isDirectory with - | -
  · rw [listing_of_not_isDirectory hdirectory]
    refine ⟨fun h => absurd h List.not_mem_nil, fun ⟨⟨names, bytes, hne, hat, _⟩, _⟩ => ?_⟩
    rw [List.nil_append, at?_eq_none hdirectory hne] at hat
    cases hat
  · rw [(listing_perm hp hnode hdirectory hending).mem_iff, List.mem_filter, List.mem_map,
      isListed_iff, ← and_assoc]
    refine and_congr_left' ?_
    constructor
    · rintro ⟨⟨⟨path, bytes⟩, hmem, rfl⟩, hsuffix⟩
      obtain ⟨names, hat, hnames⟩ := (mem_files hnode).1 hmem
      exact ⟨names, bytes, ne_nil_of_at?_file hdirectory hat, hat, hnames, hsuffix⟩
    · rintro ⟨names, bytes, -, hat, hnames, hsuffix⟩
      exact ⟨⟨(path, bytes), (mem_files hnode).2 ⟨names, hat, hnames⟩, rfl⟩, hsuffix⟩

/-- Nothing is listed twice. -/
lemma nodup_listing (hp : p.IsNormal) (hnode : node.IsTextTree) (hending : '/' ∉ ending) :
    (node.listing ending p.print).Nodup := by
  rcases hdirectory : node.isDirectory with - | -
  · rw [listing_of_not_isDirectory hdirectory]
    exact List.nodup_nil
  · rw [(listing_perm hp hnode hdirectory hending).nodup_iff]
    exact (nodup_files hp.clean hnode).filter _

end Node
end YiiNavigator
