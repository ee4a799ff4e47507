import YiiNavigator.FileSystem.Store
import YiiNavigator.Layout
import YiiNavigator.Proofs.Convention
import YiiNavigator.Proofs.Workspace

/-!
# Where a layout lies

A layout name without segments that lead up is that of a file below the views of the application,
or of the module of the file that it is seen from. The exception are names with a slash where they
are joined to the directory: joining starts anew there, and the views are lost.
-/

namespace YiiNavigator

open YiiNavigator.Path

namespace Layout

variable {conv : Convention} {fs : FileSystem} {root path name : Text} {module : Option Text}

/-! ## The name where it is joined -/

/-- Whether a layout name is taken from the views of the application themselves. -/
def IsRooted (name : Text) : Prop :=
  "//".toList.isPrefixOf name = true

instance (name : Text) : Decidable (IsRooted name) :=
  inferInstanceAs (Decidable (_ = true))

/-- What of a layout name is joined to a directory. -/
def joined (name : Text) : Text :=
  if IsRooted name then name.drop 2 else name

lemma segmentsOf_joined (name : Text) : segmentsOf (joined name) = segmentsOf name := by
  unfold joined
  split
  · rename_i hrooted
    obtain ⟨rest, rfl⟩ := List.isPrefixOf_iff_prefix.1 hrooted
    exact ((segmentsOf_slash_cons ('/' :: rest)).trans (segmentsOf_slash_cons rest)).symm
  · rfl

/-! ## The cases of a file -/

lemma file_of_isRooted (h : IsRooted name) :
    file conv fs root path name
      = canonical (joinText (conv.viewsDirectory root none)
        (joined name ++ conv.viewExtension)) := by
  unfold file joined
  rw [if_pos h]
  exact if_pos h

/-- A name that is not taken from the views themselves is that of a layout of the application or of
the module. -/
lemma file_of_not_isRooted (h : ¬IsRooted name) :
    file conv fs root path name = fileIn conv (conv.viewsDirectory root none) (joined name)
      ∨ ∃ module, (Place.of (some root) path).module? conv = some module
        ∧ file conv fs root path name
          = fileIn conv (conv.viewsDirectory root (some module)) (joined name) := by
  unfold joined
  rw [if_neg h]
  unfold file
  unfold IsRooted at h
  dsimp only
  rw [if_neg h]
  split
  · exact .inl rfl
  · rename_i module hmodule
    split
    · exact .inr ⟨module, hmodule, rfl⟩
    · split
      · exact .inl rfl
      · exact .inr ⟨module, hmodule, rfl⟩

/-! ## Where the file lies -/

/-- A layout in the layouts of a views directory lies below the views. -/
lemma isBelow_fileIn (hconv : conv.HasPlainNames) (hmodule : ∀ name ∈ module, IsPlain name)
    (hroot : IsRoot root) (hslash : ['/'].isPrefixOf name = false) (hup : up ∉ segmentsOf name) :
    IsBelow (conv.viewsDirectory root module)
      (fileIn conv (conv.viewsDirectory root module) name) := by
  have hlayouts : IsPlain directoryName := by
    decide
  obtain ⟨p, hp, hprint, hne⟩ := hconv.exists_directory hmodule hroot hconv.viewsDir
  unfold Convention.viewsDirectory
  rw [← hprint]
  apply hp.isBelow_of_under (List.forall_mem_singleton.2 hlayouts)
  show IsBelow _ (canonical (joinText (joinText p.print directoryName) _))
  rw [hp.joinText hlayouts]
  exact (hp.child hlayouts).isBelow_canonical (List.append_ne_nil_of_left_ne_nil hne _) hslash hup
    conv.viewExtension_valid

/-- **Layouts lie below views.** A layout name with no segment that leads up, and no slash where it
is joined to a directory, is that of a file below the views of the application, or below those of
the module of the file, unless two slashes ask for the application. -/
theorem file_isBelow (hconv : conv.HasPlainNames) (hroot : IsRoot root)
    (hup : up ∉ segmentsOf name) (hslash : ['/'].isPrefixOf (joined name) = false) :
    IsBelow (conv.viewsDirectory root none) (file conv fs root path name)
      ∨ ¬IsRooted name ∧ ∃ module, (Place.of (some root) path).module? conv = some module
        ∧ IsBelow (conv.viewsDirectory root (some module)) (file conv fs root path name) := by
  have hnone : ∀ name ∈ (none : Option Text), IsPlain name := by
    intro name h
    cases h
  rw [← segmentsOf_joined] at hup
  by_cases hrooted : IsRooted name
  · left
    obtain ⟨p, hp, hprint, hne⟩ := hconv.exists_directory hnone hroot hconv.viewsDir
    rw [file_of_isRooted hrooted]
    unfold Convention.viewsDirectory
    rw [← hprint]
    exact hp.isBelow_canonical hne hslash hup conv.viewExtension_valid
  · rcases file_of_not_isRooted hrooted with heq | ⟨module, hmodule, heq⟩
    · left
      rw [heq]
      exact isBelow_fileIn hconv hnone hroot hslash hup
    · right
      have hplain : ∀ name ∈ some module, IsPlain name := by
        intro name h
        cases h
        exact Place.isPlain_of_module? hconv hmodule
      refine ⟨hrooted, module, hmodule, ?_⟩
      rw [heq]
      exact isBelow_fileIn hconv hplain hroot hslash hup

/-- A name with two slashes is that of a file below the views of the application, also when it is
seen from a module. -/
theorem file_isBelow_rooted :
    let path := "/ws/protected/modules/shop/views/cart/index.php".toList
    file .stock (Store.empty.fileSystem ['/']) "/ws".toList path "//layouts/.//main".toList
        = "/ws/protected/views/layouts/main.php".toList
      ∧ IsBelow "/ws/protected/views".toList "/ws/protected/views/layouts/main.php".toList := by
  intro path
  have hconv : Convention.stock.HasPlainNames := by
    decide
  have hroot : IsRoot "/ws".toList := by
    decide +kernel
  have hup : up ∉ segmentsOf "//layouts/.//main".toList := by
    decide +kernel
  have hslash : ['/'].isPrefixOf (joined "//layouts/.//main".toList) = false := by
    decide
  have hviews : Convention.stock.viewsDirectory "/ws".toList none
      = "/ws/protected/views".toList := by
    decide +kernel
  have hfile : file .stock (Store.empty.fileSystem ['/']) "/ws".toList path
        "//layouts/.//main".toList
      = "/ws/protected/views/layouts/main.php".toList := by
    decide +kernel
  refine ⟨hfile, ?_⟩
  rw [← hviews, ← hfile]
  exact (file_isBelow hconv hroot hup hslash).resolve_right fun h => h.1 (by decide)

/-! ## Where the views are lost -/

/-- Joining starts anew at a slash: such a name is that of a file which no directory of the
workspace decides about. -/
lemma file_of_slash (hslash : ['/'].isPrefixOf (joined name) = true) :
    file conv fs root path name = canonical (joined name ++ conv.viewExtension) := by
  have hjoin : ∀ directory, joinText directory (joined name ++ conv.viewExtension)
      = joined name ++ conv.viewExtension := by
    obtain ⟨rest, hrest⟩ := List.isPrefixOf_iff_prefix.1 hslash
    rw [← hrest]
    exact fun directory => if_pos rfl
  by_cases hrooted : IsRooted name
  · rw [file_of_isRooted hrooted, hjoin]
  · rcases file_of_not_isRooted hrooted with heq | ⟨module, -, heq⟩
    · rw [heq]
      exact congrArg canonical (hjoin _)
    · rw [heq]
      exact congrArg canonical (hjoin _)

/-- A name with one slash and a name with three are those of a file at the top, outside of the
views of the application. -/
theorem file_outside :
    let path := "/ws/protected/controllers/PostController.php".toList
    ∀ name ∈ ["/main".toList, "///main".toList],
      segmentsOf name = ["main".toList] ∧ (Place.of (some "/ws".toList) path).module? .stock = none
        ∧ ¬IsBelow (Convention.stock.viewsDirectory "/ws".toList none)
          (file .stock (Store.empty.fileSystem ['/']) "/ws".toList path name) := by
  intro path name hname
  have hviews : IsRoot (Convention.stock.viewsDirectory "/ws".toList none) := by
    decide +kernel
  have hslash : ['/'].isPrefixOf (joined name) = true := by
    revert name
    decide
  have hfile : canonical (joined name ++ Convention.stock.viewExtension)
      = "/main.php".toList := by
    revert name
    decide +kernel
  refine ⟨?_, by decide +kernel, fun hbelow => ?_⟩
  · revert name
    decide +kernel
  · rw [file_of_slash hslash, hfile] at hbelow
    have hprefix := hbelow.isPrefix_segments hviews
    revert hprefix
    decide +kernel

end Layout
end YiiNavigator
