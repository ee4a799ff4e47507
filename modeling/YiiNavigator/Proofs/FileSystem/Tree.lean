import Mathlib.Data.List.Nodup
import Mathlib.Data.List.Perm.Basic
import YiiNavigator.FileSystem.Disk
import YiiNavigator.Proofs.Path.Below

/-!
# Positions in a tree of files

A position in a tree is the list of names that lead from its top to a node. Following a path that
does not lead up is going to a position (`Node.follow_eq_ok_iff`). In a tree of texts every name of
a directory stands for one thing, so that the files and the directories of the tree are told by its
positions.
-/

namespace YiiNavigator

open YiiNavigator.Path

variable {p : Path} {name ending path : Text} {names more : List Text} {node found : Node}
  {entries : Entries} {e : Text × Node}

/-- Whether a text is a name as it stands in a directory: a segment that does not lead up. -/
structure IsFileName (name : Text) : Prop extends IsName name where
  ne_up : name ≠ up

instance (name : Text) : Decidable (IsFileName name) :=
  decidable_of_iff (name ≠ [] ∧ '/' ∉ name ∧ name ≠ here ∧ name ≠ up)
    ⟨fun ⟨h₁, h₂, h₃, h₄⟩ => ⟨⟨h₁, h₂, h₃⟩, h₄⟩, fun ⟨⟨h₁, h₂, h₃⟩, h₄⟩ => ⟨h₁, h₂, h₃, h₄⟩⟩

lemma Path.IsNormal.below (hp : p.IsNormal) (hnames : ∀ name ∈ names, IsFileName name) :
    (p.under names).IsNormal :=
  hp.under fun name hname => ⟨(hnames name hname).toIsName, (hnames name hname).ne_up⟩

/-! ## Entries -/

namespace Entries

/-- The names of a directory with what they stand for, as a list. -/
def toList : Entries → List (Text × Node)
  | nil => []
  | cons name node rest => (name, node) :: rest.toList

lemma mem_of_find? : {entries : Entries} → entries.find? name = some node →
    (name, node) ∈ entries.toList
  | nil, h => by cases h
  | cons other first rest, h => by
    rw [find?] at h
    split at h
    · rename_i heq
      rw [← heq, ← Option.some.inj h]
      exact List.mem_cons_self
    · exact List.mem_cons_of_mem _ (mem_of_find? h)

lemma fileNames_eq (ending : Text) : (entries : Entries) → entries.fileNames ending
    = (entries.toList.filter fun e => !e.2.isDirectory && ending.isSuffixOf e.1).map (·.1)
  | nil => rfl
  | cons name node rest => by
    rw [fileNames, toList, List.filter_cons, fileNames_eq ending rest]
    dsimp only
    split
    · rfl
    · rfl

lemma listings_eq (ending path : Text) : (entries : Entries) → entries.listings ending path
    = (entries.toList.filter (·.2.isDirectory)).map fun e =>
        (e.1, e.2.listing ending (joinText path e.1))
  | nil => rfl
  | cons name node rest => by
    rw [listings, toList, List.filter_cons, listings_eq ending path rest]
    dsimp only
    split
    · rfl
    · rfl

end Entries

mutual

/-- Induction over a tree, a directory being treated after all that it holds. -/
@[elab_as_elim]
theorem Node.induction {motive : Node → Prop} (file : ∀ bytes, motive (.file bytes))
    (brokenLink : motive .brokenLink)
    (directory : ∀ entries : Entries, (∀ e ∈ entries.toList, motive e.2) →
      motive (.directory entries)) : ∀ node, motive node
  | .file bytes => file bytes
  | .brokenLink => brokenLink
  | .directory entries =>
    directory entries (Entries.forall_mem_toList file brokenLink directory entries)

theorem Entries.forall_mem_toList {motive : Node → Prop} (file : ∀ bytes, motive (.file bytes))
    (brokenLink : motive .brokenLink)
    (directory : ∀ entries : Entries, (∀ e ∈ entries.toList, motive e.2) →
      motive (.directory entries)) : ∀ entries : Entries, ∀ e ∈ entries.toList, motive e.2
  | .nil => fun _ h => absurd h List.not_mem_nil
  | .cons _ node rest => List.forall_mem_cons.2
    ⟨Node.induction file brokenLink directory node,
      Entries.forall_mem_toList file brokenLink directory rest⟩

end

/-! ## Positions -/

namespace Node

lemma isDirectory_iff : node.isDirectory = true ↔ ∃ entries, node = directory entries := by
  rcases node with bytes | - | entries
  · simp [isDirectory]
  · simp [isDirectory]
  · simp [isDirectory]

/-- The node at a position. -/
def at? : List Text → Node → Option Node
  | [], node => some node
  | name :: rest, node => (node.entries.find? name).bind (at? rest)

lemma at?_append (names more : List Text) (node : Node) :
    node.at? (names ++ more) = (node.at? names).bind (at? more) := by
  induction names generalizing node with
  | nil => rfl
  | cons name rest ih =>
    show (node.entries.find? name).bind (at? (rest ++ more))
      = ((node.entries.find? name).bind (at? rest)).bind (at? more)
    rw [Option.bind_assoc]
    congr
    funext child
    exact ih child

lemma at?_cons_eq_some_iff : node.at? (name :: names) = some found
    ↔ ∃ child, node.entries.find? name = some child ∧ child.at? names = some found :=
  Option.bind_eq_some_iff

/-- Nothing is at a position below what is not a directory. -/
lemma at?_eq_none (h : node.isDirectory = false) (hne : names ≠ []) : node.at? names = none := by
  obtain ⟨name, rest, rfl⟩ := List.exists_cons_of_ne_nil hne
  rcases node with bytes | - | entries
  · rfl
  · rfl
  · cases h

/-- A file in a directory is not the directory itself. -/
lemma ne_nil_of_at?_file {bytes : List UInt8} (hnode : node.isDirectory = true)
    (hfile : node.at? names = some (file bytes)) : names ≠ [] := by
  rintro rfl
  rw [Option.some.inj hfile] at hnode
  cases hnode

/-- Only a directory has positions below it. -/
lemma exists_directory (hfound : node.at? (names ++ more) = some found) (hne : more ≠ []) :
    ∃ entries, node.at? names = some (directory entries) := by
  rw [at?_append] at hfound
  obtain ⟨last, hlast, hmore⟩ := Option.bind_eq_some_iff.1 hfound
  rcases hdirectory : last.isDirectory with - | -
  · rw [at?_eq_none hdirectory hne] at hmore
    cases hmore
  · obtain ⟨entries, rfl⟩ := isDirectory_iff.1 hdirectory
    exact ⟨entries, hlast⟩

/-! ## Following a path -/

lemma follow_nil (h : node ≠ .brokenLink) (above : List Node) :
    node.follow [] above = .ok node := by
  rcases node with bytes | - | entries
  · rfl
  · exact absurd rfl h
  · rfl

lemma follow_cons (h : name ≠ up) (above : List Node) :
    (directory entries).follow (name :: names) above
      = match entries.find? name with
        | none => .error (missingName name)
        | some child => child.follow names (.directory entries :: above) :=
  if_neg h

/-- A path that does not lead up is followed to the position that it names. -/
lemma follow_eq_ok_iff (h : up ∉ names) (above : List Node) :
    node.follow names above = .ok found ↔ node.at? names = some found ∧ found ≠ .brokenLink := by
  -- the directories on the way change from step to step, but nothing goes back to them
  induction names generalizing node above with
  | nil =>
    by_cases hnode : node = .brokenLink
    · subst hnode
      exact ⟨fun heq => (nomatch heq), fun heq => absurd (Option.some.inj heq.1).symm heq.2⟩
    · rw [follow_nil hnode, at?, Except.ok.injEq, Option.some.injEq]
      exact ⟨fun heq => ⟨heq, heq ▸ hnode⟩, And.left⟩
  | cons name rest ih =>
    obtain ⟨hname, hrest⟩ := not_or.1 (mt List.mem_cons.2 h)
    rcases node with bytes | - | entries
    · rw [follow, at?_eq_none rfl (List.cons_ne_nil _ _)]
      exact ⟨fun heq => (nomatch heq), fun heq => (nomatch heq.1)⟩
    · rw [follow, at?_eq_none rfl (List.cons_ne_nil _ _)]
      exact ⟨fun heq => (nomatch heq), fun heq => (nomatch heq.1)⟩
    · rw [follow_cons (Ne.symm hname)]
      show _ ↔ (entries.find? name).bind (at? rest) = some found ∧ _
      rcases entries.find? name with - | child
      · exact ⟨fun heq => (nomatch heq), fun heq => (nomatch heq.1)⟩
      · exact ih hrest _

end Node

/-! ## Trees of texts -/

mutual

/-- Whether the files of a tree hold texts without carriage returns, in UTF-8, and there are only
files and directories. -/
def Node.IsTextTree : Node → Prop
  | .file bytes => ∃ content, bytes = Text.encodeUtf8 content ∧ '\r' ∉ content
  | .brokenLink => False
  | .directory entries => entries.AreTextTrees

/-- Whether each of the names in a directory stands for one tree of texts. -/
def Entries.AreTextTrees : Entries → Prop
  | .nil => True
  | .cons name node rest =>
    IsFileName name ∧ rest.find? name = none ∧ node.IsTextTree ∧ rest.AreTextTrees

end

namespace Entries.AreTextTrees

lemma of_mem : {entries : Entries} → entries.AreTextTrees → e ∈ entries.toList →
    IsFileName e.1 ∧ e.2.IsTextTree ∧ entries.find? e.1 = some e.2
  | .nil, _, he => absurd he List.not_mem_nil
  | .cons name node rest, ⟨hname, hfresh, hnode, hrest⟩, he => by
    rw [Entries.find?]
    rcases List.mem_cons.1 he with rfl | he
    · exact ⟨hname, hnode, if_pos rfl⟩
    · -- the name of a later entry is not that of the first one
      obtain ⟨hlater, htree, hfind⟩ := of_mem hrest he
      have hne : name ≠ e.1 := by
        rintro rfl
        rw [hfresh] at hfind
        cases hfind
      exact ⟨hlater, htree, (if_neg hne).trans hfind⟩

lemma pairwise_ne : {entries : Entries} → entries.AreTextTrees →
    entries.toList.Pairwise fun a b => a.1 ≠ b.1
  | .nil, _ => List.Pairwise.nil
  | .cons name node rest, ⟨_, hfresh, _, hrest⟩ => by
    refine List.pairwise_cons.2 ⟨fun e he heq => ?_, pairwise_ne hrest⟩
    have hfind := (of_mem hrest he).2.2
    rw [← heq, hfresh] at hfind
    cases hfind

end Entries.AreTextTrees

namespace Node

lemma IsTextTree.exists_file (h : node.IsTextTree) (hnode : node.isDirectory = false) :
    ∃ content, node = .file (Text.encodeUtf8 content) ∧ '\r' ∉ content := by
  rcases node with bytes | - | entries
  · obtain ⟨content, rfl, hcontent⟩ := h
    exact ⟨content, rfl, hcontent⟩
  · exact h.elim
  · cases hnode

/-- What is at a position of a tree of texts is one, and the position consists of names. -/
lemma IsTextTree.at? (h : node.IsTextTree) (hfound : node.at? names = some found) :
    found.IsTextTree ∧ ∀ name ∈ names, IsFileName name := by
  induction names generalizing node with
  | nil =>
    cases hfound
    exact ⟨h, fun name hname => absurd hname List.not_mem_nil⟩
  | cons name rest ih =>
    obtain ⟨child, hchild, hrest⟩ := at?_cons_eq_some_iff.1 hfound
    rcases node with bytes | - | entries
    · cases hchild
    · cases hchild
    · obtain ⟨hname, htree, -⟩ :=
        Entries.AreTextTrees.of_mem h (Entries.mem_of_find? hchild)
      have := ih htree hrest
      exact ⟨this.1, List.forall_mem_cons.2 ⟨hname, this.2⟩⟩

/-- File names that lead to the path of a position are that position. -/
lemma IsTextTree.names_eq {others : List Text} (h : node.IsTextTree) (hp : p.IsNormal)
    (hnames : ∀ name ∈ names, IsFileName name) (hfound : node.at? others = some found)
    (heq : (p.under names).print = (p.under others).print) : names = others :=
  (hp.below hnames).clean.under_inj (hp.below (h.at? hfound).2).clean heq

end Node

/-! ## What a tree holds -/

mutual

/-- The positions of a tree with the nodes that are there. -/
def Node.positions : Node → List (List Text × Node)
  | .file bytes => [([], .file bytes)]
  | .brokenLink => [([], .brokenLink)]
  | .directory entries => ([], .directory entries) :: entries.positions

/-- The positions that begin with a name of a directory, with the nodes that are there. -/
def Entries.positions : Entries → List (List Text × Node)
  | .nil => []
  | .cons name node rest => node.positions.map (fun q => (name :: q.1, q.2)) ++ rest.positions

end

lemma Entries.positions_eq : (entries : Entries) → entries.positions
    = entries.toList.flatMap fun e => e.2.positions.map fun q => (e.1 :: q.1, q.2)
  | .nil => rfl
  | .cons name node rest => by
    rw [positions, toList, List.flatMap_cons, positions_eq rest]

namespace Node

/-- The bytes of a file. -/
def bytes? : Node → Option (List UInt8)
  | file bytes => some bytes
  | _ => none

/-- The files of a tree, under their paths below the path of its top. -/
def files (p : Path) (node : Node) : List (Text × List UInt8) :=
  node.positions.filterMap fun q => q.2.bytes?.map fun bytes => ((p.under q.1).print, bytes)

/-- The paths of the directories of a tree. -/
def directories (p : Path) (node : Node) : List Text :=
  (node.positions.filter (·.2.isDirectory)).map fun q => (p.under q.1).print

lemma bytes?_eq_some_iff {bytes : List UInt8} : node.bytes? = some bytes ↔ node = file bytes := by
  rcases node with found | - | entries
  · simp [bytes?]
  · simp [bytes?]
  · simp [bytes?]

lemma mem_positions (h : node.IsTextTree) :
    (names, found) ∈ node.positions ↔ node.at? names = some found := by
  induction node using Node.induction generalizing names with
  | file bytes =>
    rcases names with - | ⟨name, rest⟩
    · simp [positions, at?, eq_comm]
    · rw [at?_eq_none rfl (List.cons_ne_nil _ _)]
      simp [positions]
  | brokenLink => exact h.elim
  | directory entries ih =>
    have hentries : entries.AreTextTrees := h
    rw [positions, List.mem_cons, Entries.positions_eq, List.mem_flatMap]
    rcases names with - | ⟨name, rest⟩
    · -- the directory itself, since the positions of its entries begin with a name
      constructor
      · rintro (heq | ⟨e, -, hmem⟩)
        · cases heq
          rfl
        · obtain ⟨q, -, hq⟩ := List.mem_map.1 hmem
          cases hq
      · exact fun hat => .inl (by rw [Option.some.inj hat])
    · rw [at?_cons_eq_some_iff]
      constructor
      · rintro (heq | ⟨e, he, hmem⟩)
        · cases heq
        · obtain ⟨-, htree, hfind⟩ := hentries.of_mem he
          obtain ⟨q, hq, heq⟩ := List.mem_map.1 hmem
          cases heq
          exact ⟨e.2, hfind, (ih e he htree).1 hq⟩
      · rintro ⟨child, hchild, hat⟩
        have he := Entries.mem_of_find? hchild
        exact .inr ⟨(name, child), he,
          List.mem_map.2 ⟨(rest, found), (ih _ he (hentries.of_mem he).2.1).2 hat, rfl⟩⟩

/-- No position comes twice. -/
lemma nodup_positions (h : node.IsTextTree) : (node.positions.map (·.1)).Nodup := by
  induction node using Node.induction with
  | file bytes => exact List.nodup_singleton _
  | brokenLink => exact h.elim
  | directory entries ih =>
    have hentries : entries.AreTextTrees := h
    rw [positions, List.map_cons, List.nodup_cons, Entries.positions_eq, List.map_flatMap,
      List.nodup_flatMap]
    simp only [List.map_map, Function.comp_def]
    refine ⟨fun hmem => ?_, fun e he => ?_,
      hentries.pairwise_ne.imp fun {a b} hne names ha hb => ?_⟩
    · obtain ⟨e, -, hnil⟩ := List.mem_flatMap.1 hmem
      obtain ⟨q, -, hq⟩ := List.mem_map.1 hnil
      cases hq
    · have hnodup := (ih e he (hentries.of_mem he).2.1).map (List.cons_injective (a := e.1))
      rwa [List.map_map] at hnodup
    · -- positions through different entries begin with different names
      obtain ⟨q, -, rfl⟩ := List.mem_map.1 ha
      obtain ⟨q', -, hq'⟩ := List.mem_map.1 hb
      exact hne (List.cons.inj hq').1.symm

/-- The files of a tree are what is found at its positions. -/
lemma mem_files {bytes : List UInt8} (h : node.IsTextTree) : (path, bytes) ∈ node.files p
    ↔ ∃ names, node.at? names = some (file bytes) ∧ path = (p.under names).print := by
  unfold files
  rw [List.mem_filterMap]
  constructor
  · rintro ⟨⟨names, found⟩, hmem, hq⟩
    obtain ⟨content, hcontent, heq⟩ := Option.map_eq_some_iff.1 hq
    cases heq
    rw [bytes?_eq_some_iff] at hcontent
    dsimp only at hcontent
    exact ⟨names, hcontent ▸ (mem_positions h).1 hmem, rfl⟩
  · rintro ⟨names, hat, rfl⟩
    exact ⟨(names, file bytes), (mem_positions h).2 hat, rfl⟩

lemma mem_directories (h : node.IsTextTree) : path ∈ node.directories p
    ↔ ∃ names entries, node.at? names = some (directory entries)
      ∧ path = (p.under names).print := by
  unfold directories
  rw [List.mem_map]
  constructor
  · rintro ⟨⟨names, found⟩, hmem, rfl⟩
    obtain ⟨hmem, hfound⟩ := List.mem_filter.1 hmem
    rcases found with bytes | - | entries
    · cases hfound
    · cases hfound
    · exact ⟨names, entries, (mem_positions h).1 hmem, rfl⟩
  · rintro ⟨names, entries, hat, rfl⟩
    exact ⟨(names, directory entries), List.mem_filter.2 ⟨(mem_positions h).2 hat, rfl⟩, rfl⟩

/-- No two files have the same path. -/
lemma nodup_files (hp : p.IsClean) (h : node.IsTextTree) :
    ((node.files p).map (·.1)).Nodup := by
  unfold files List.Nodup
  rw [List.map_filterMap, List.pairwise_filterMap]
  refine (List.pairwise_map.1 (nodup_positions h)).imp_of_mem
    fun {a b} ha hb hne first hfirst second hsecond heq => ?_
  have hclean : ∀ q ∈ node.positions, (p.under q.1).IsClean := fun q hq =>
    hp.under fun name hname => ((h.at? ((mem_positions h).1 hq)).2 name hname).toIsName
  obtain ⟨-, -, rfl⟩ : ∃ bytes, a.2.bytes? = some bytes ∧ (p.under a.1).print = first := by
    simpa using hfirst
  obtain ⟨-, -, rfl⟩ : ∃ bytes, b.2.bytes? = some bytes ∧ (p.under b.1).print = second := by
    simpa using hsecond
  exact hne ((hclean a ha).under_inj (hclean b hb) heq)

/-- The files of a directory are those of its entries. -/
lemma files_directory (p : Path) (entries : Entries) : (directory entries).files p
    = entries.toList.flatMap fun e => e.2.files (p.under [e.1]) := by
  unfold files
  rw [positions, List.filterMap_cons, Entries.positions_eq, List.filterMap_flatMap]
  simp only [bytes?, Option.map_none, List.filterMap_map, Function.comp_def, under_under,
    List.singleton_append]

end Node
end YiiNavigator
