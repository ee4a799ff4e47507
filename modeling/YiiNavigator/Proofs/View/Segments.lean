import YiiNavigator.FileSystem.Store
import YiiNavigator.Proofs.Convention
import YiiNavigator.Proofs.Path.Canonical
import YiiNavigator.Proofs.View.Resolution

/-!
# Where a view name leads

The slashes in front of a view name choose the directory that it is taken from, its segments lead on
from there, and a probe chooses the file name for the last of them. Slashes and backslashes more
than are needed, and segments that stay in place, change nothing; without segments that lead up, the
file lies below the directory.
-/

namespace YiiNavigator

open YiiNavigator.Path

namespace View

variable {conv : Convention} {fs : FileSystem} {roots : ViewRoots} {root name extension : Text}
  {p : Path}

/-! ## The name of the file -/

/-- The file name that a probe chooses for a name in a directory. The name with an underscore is
preferred, unless only the file of the name as it is exists. -/
def fileName (fs : FileSystem) (extension : Text) (policy : Probe) (directory name : Text) : Text :=
  match policy with
  | .expectedPath => name ++ extension
  | .preferExisting =>
    if fs.has (joinText directory (underscored name ++ extension)) = true
        ∨ fs.has (joinText directory (name ++ extension)) = false then
      underscored name ++ extension
    else name ++ extension

lemma isPlain_underscored (h : IsPlain name) : IsPlain (underscored name) := by
  have hslash := notMem_underscored (by decide) h.no_slash
  have hback := notMem_underscored (by decide) h.no_backslash
  unfold underscored at hslash hback ⊢
  split
  · exact h
  · rename_i hmark
    rw [if_neg hmark] at hslash hback
    exact ⟨List.cons_ne_nil _ _, hslash, hback,
      fun heq => absurd (List.cons.inj heq).1 (by decide),
      fun heq => absurd (List.cons.inj heq).1 (by decide)⟩

lemma fileName_eq_or (fs : FileSystem) (extension : Text) (policy : Probe) (directory name : Text) :
    fileName fs extension policy directory name = name ++ extension
      ∨ fileName fs extension policy directory name = underscored name ++ extension := by
  unfold fileName
  split
  · exact .inl rfl
  · split
    · exact .inr rfl
    · exact .inl rfl

lemma isPlain_fileName (fs : FileSystem) (h : IsPlain name)
    (hextension : isExtension extension = true) (policy : Probe) (directory : Text) :
    IsPlain (fileName fs extension policy directory name) := by
  rcases fileName_eq_or fs extension policy directory name with heq | heq
  · rw [heq]
    exact h.append_extension hextension
  · rw [heq]
    exact (isPlain_underscored h).append_extension hextension

/-- A probe of a name in a directory chooses the file name for it there. -/
lemma probe_under (fs : FileSystem) (hp : p.IsSettled) (h : IsPlain name)
    (hextension : isExtension extension = true) (policy : Probe) :
    probe fs extension policy (p.under [name]).print
      = joinText p.print (fileName fs extension policy p.print name) := by
  rcases policy with - | -
  · -- the extension is put behind the spelled path, so that it belongs to the last name
    show (p.under [name]).print ++ extension = joinText p.print (name ++ extension)
    rw [hp.joinText (h.append_extension hextension), print_under_singleton hp.anchored,
      print_under_singleton hp.anchored]
    split
    · rw [List.append_assoc]
    · rw [List.append_assoc]
      rfl
  · unfold probe fileName
    rw [hp.splitLast h]
    dsimp only
    by_cases hmarked : fs.has (joinText p.print (underscored name ++ extension)) = true
    · rw [if_pos hmarked, if_pos (.inl hmarked)]
    · by_cases hplain : fs.has (joinText p.print (name ++ extension)) = true
      · rw [if_neg hmarked, if_pos hplain, if_neg]
        rintro (h | h)
        · exact hmarked h
        · rw [hplain] at h
          cases h
      · rw [if_neg hmarked, if_neg hplain, if_pos (.inr (Bool.not_eq_true _ ▸ hplain))]

/-! ## The directory of the file -/

/-- The directory that a view name is taken from, by the slashes in front of it: that of the
application after two, that of the module after one, and else that of the file's own views. -/
def baseOf (roots : ViewRoots) (name : Text) : Text :=
  if "//".toList.isPrefixOf name then roots.application
  else if "/".toList.isPrefixOf name then roots.ofModule.getD roots.application
  else roots.own

/-- The file that names lead to from a directory; a probe chooses its name for the last of them. -/
def probedFile (fs : FileSystem) (extension : Text) (policy : Probe) (base : Text)
    (front : List Text) (last : Text) : Text :=
  let directory := joinTexts base front
  joinText directory (fileName fs extension policy directory last)

/-- The directories of views are paths in normal form that have names. -/
structure HasDirectories (roots : ViewRoots) : Prop where
  own : IsDirectory roots.own
  application : IsDirectory roots.application
  ofModule : ∀ directory ∈ roots.ofModule, IsDirectory directory

lemma HasDirectories.baseOf (h : HasDirectories roots) (name : Text) :
    IsDirectory (View.baseOf roots name) := by
  unfold View.baseOf
  split
  · exact h.application
  · split
    · rcases hmodule : roots.ofModule with - | directory
      · exact h.application
      · exact h.ofModule directory hmodule
    · exact h.own

/-- A view name that is no alias is put behind its directory with a slash, whether it brings that
slash along or not. -/
lemma exists_spelled (conv : Convention) (root : Text) (hp : p.IsSettled) (hne : p.segments ≠ [])
    (hbase : baseOf roots name = p.print)
    (hspelling : ViewSpelling.ofName name ≠ .dotted) :
    ∃ rest, spelled? conv roots root name = some (p.print ++ '/' :: rest)
      ∧ segmentsOf rest = segmentsOf name := by
  unfold spelled?
  unfold ViewSpelling.ofName at hspelling ⊢
  unfold baseOf at hbase
  split at hbase
  · rename_i hslashes
    obtain ⟨rest, rfl⟩ := List.isPrefixOf_iff_prefix.1 hslashes
    rw [hbase]
    exact ⟨'/' :: rest, rfl, (segmentsOf_slash_cons _).symm⟩
  · rename_i hslashes
    rw [if_neg hslashes] at hspelling ⊢
    split at hbase
    · rename_i hslash
      obtain ⟨rest, rfl⟩ := List.isPrefixOf_iff_prefix.1 hslash
      rw [if_pos hslash, hbase]
      exact ⟨rest, rfl, (segmentsOf_slash_cons _).symm⟩
    · rename_i hslash
      have hjoin : joinText roots.own name = p.print ++ '/' :: name := by
        rw [hbase]
        exact hp.joinText_eq_append hne (Bool.not_eq_true _ ▸ hslash)
      rw [if_neg hslash] at hspelling ⊢
      refine ⟨name, ?_, rfl⟩
      split
      · rename_i hroot
        split at hroot
        · cases hroot
        · split at hroot <;> cases hroot
      · rename_i habsolute
        split at habsolute
        · cases habsolute
        · split at habsolute <;> cases habsolute
      · rename_i hdotted
        exact absurd hdotted hspelling
      · rw [hjoin]
      · rw [hjoin]

/-- The file of a view name is found by its segments below its directory. -/
lemma file?_eq (conv : Convention) (fs : FileSystem) (root : Text) {front : List Text}
    {last : Text} (hp : p.IsSettled) (hne : p.segments ≠ [])
    (hbase : baseOf roots name = p.print) (hspelling : ViewSpelling.ofName name ≠ .dotted)
    (hsegments : segmentsOf name = front ++ [last]) (hup : up ∉ segmentsOf name)
    (policy : Probe) :
    file? conv fs roots root name policy
      = some (probedFile fs conv.viewExtension policy p.print front last) := by
  have hplain := isPlain_of_mem_segmentsOf hup
  rw [hsegments] at hplain
  have hfront : ∀ name ∈ front, IsPlain name := fun name h =>
    hplain name (List.mem_append_left _ h)
  have hlast : IsPlain last := hplain last (List.mem_append_right _ List.mem_cons_self)
  have hname : name ≠ [] := by
    rintro rfl
    have hnone : segmentsOf [] = [] := rfl
    rw [hnone] at hsegments
    exact absurd hsegments.symm (List.append_ne_nil_of_right_ne_nil _ (List.cons_ne_nil _ _))
  obtain ⟨rest, hspelled, hrest⟩ := exists_spelled conv root hp hne hbase hspelling
  refine file?_eq_some_iff.2 ⟨hname, _, hspelled, ?_⟩
  have hcanonical : canonical (p.print ++ '/' :: rest) = ((p.under front).under [last]).print := by
    rw [hp.canonical_append_slash hne (hrest ▸ hup), hrest, hsegments, under_under]
  rw [hcanonical, probe_under fs (hp.under hfront) hlast conv.viewExtension_valid]
  unfold probedFile
  rw [hp.joinTexts hfront]

/-! ## The main result -/

/-- **View names resolve by their segments.** A view name that is no alias, and none of whose
segments leads up, leads from the directory that its slashes choose along its segments to the file
that the probe chooses for the last of them: the expected one for a view that is rendered in full,
the existing one for a partial. That file lies below the directory. -/
theorem file?_segments {front : List Text} {last : Text} (hroots : HasDirectories roots)
    (hspelling : ViewSpelling.ofName name ≠ .dotted)
    (hsegments : segmentsOf name = front ++ [last]) (hup : up ∉ segmentsOf name) :
    (∀ policy, file? conv fs roots root name policy
        = some (probedFile fs conv.viewExtension policy (baseOf roots name) front last))
      ∧ (∀ isPartial, (resolve conv fs roots root (.ofName name isPartial)).map (·.path)
        = .ok (probedFile fs conv.viewExtension
            (if isPartial then .preferExisting else .expectedPath) (baseOf roots name) front last))
      ∧ ∀ policy, IsBelow (baseOf roots name)
        (probedFile fs conv.viewExtension policy (baseOf roots name) front last) := by
  obtain ⟨p, hp, hbase, hne⟩ := (hroots.baseOf name).exists_settled
  have hfile := file?_eq conv fs root hp hne hbase.symm hspelling hsegments hup
  rw [← hbase]
  refine ⟨hfile, fun isPartial => ?_, fun policy => ?_⟩
  · have hresolve : resolve conv fs roots root (.ofName name isPartial) = .ok ⟨_, _, _⟩ :=
      resolve_eq_ok_iff.2 ⟨_, hfile (.ofPartial isPartial), rfl⟩
    rw [hresolve]
    rfl
  · have hplain := hsegments ▸ isPlain_of_mem_segmentsOf hup
    have hfront : ∀ name ∈ front, IsPlain name := fun name h =>
      hplain name (List.mem_append_left _ h)
    have hlast : IsPlain last := hplain last (List.mem_append_right _ List.mem_cons_self)
    have hname := isPlain_fileName fs hlast conv.viewExtension_valid policy (p.under front).print
    unfold probedFile
    rw [hp.joinTexts hfront, (hp.under hfront).joinText hname, under_under]
    refine hp.isBelow (List.append_ne_nil_of_right_ne_nil _ (List.cons_ne_nil _ _)) ?_
    exact List.forall_mem_append.2 ⟨hfront, List.forall_mem_singleton.2 hname⟩

/-- A name with slashes and backslashes more than are needed leads to a part of a module's views:
to the file without an underscore where only that one exists, and else to the one with it. -/
theorem file?_segments_module :
    let roots : ViewRoots := ⟨"/ws/protected/modules/shop/views/cart".toList,
      "/ws/protected/views".toList, some "/ws/protected/modules/shop/views".toList⟩
    let store := Store.build
      [("/ws/protected/modules/shop/views/a/item.php".toList, "".toList)] []
    let name := "/.\\a//item/".toList
    file? .stock (store.fileSystem ['/']) roots "/ws".toList name .preferExisting
        = some "/ws/protected/modules/shop/views/a/item.php".toList
      ∧ file? .stock (Store.empty.fileSystem ['/']) roots "/ws".toList name .preferExisting
        = some "/ws/protected/modules/shop/views/a/_item.php".toList := by
  intro roots store name
  have hroots : HasDirectories roots := by
    refine ⟨by decide +kernel, by decide +kernel, ?_⟩
    rintro directory ⟨⟩
    decide +kernel
  have hspelling : ViewSpelling.ofName name ≠ .dotted := by
    decide
  have hsegments : segmentsOf name = ["a".toList] ++ ["item".toList] := by
    decide +kernel
  have hup : up ∉ segmentsOf name := by
    rw [hsegments]
    decide
  have hfile : ∀ fs, file? .stock fs roots "/ws".toList name .preferExisting
      = some (probedFile fs Convention.stock.viewExtension .preferExisting (baseOf roots name)
        ["a".toList] "item".toList) := by
    intro fs
    exact (file?_segments hroots hspelling hsegments hup).1 .preferExisting
  refine ⟨(hfile _).trans ?_, (hfile _).trans ?_⟩
  · decide +kernel
  · decide +kernel

end View
end YiiNavigator
