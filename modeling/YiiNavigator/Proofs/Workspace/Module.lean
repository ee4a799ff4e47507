import YiiNavigator.Proofs.Convention
import YiiNavigator.Proofs.Path.Segments
import YiiNavigator.Proofs.Workspace

/-!
# The module of a path

The names of a path may run through the protected directory and the modules directory to a module
more than once. The module that counts is that of the last run with something below it, and it is
the one that the path was put together for (`module?_lastRun`).
-/

namespace YiiNavigator

open YiiNavigator.Path

/-! ## Runs -/

namespace Convention

/-- Whether some names lead from those above through the protected directory and the modules
directory to a module, and on to something below it. -/
def HasRun (conv : Convention) (names above : List Text) (module : Text) : Prop :=
  ∃ below, below ≠ [] ∧ names = above ++ [conv.protectedDir, conv.modulesDir, module] ++ below

/-- Whether no run in some names begins further below. -/
structure IsLastRun (conv : Convention) (names above : List Text) (module : Text) : Prop where
  run : conv.HasRun names above module
  last : ∀ other m, conv.HasRun names other m → other.length ≤ above.length

variable {conv : Convention} {names above other : List Text} {part m n : Text}

lemma HasRun.cons (h : conv.HasRun names above m) (part : Text) :
    conv.HasRun (part :: names) (part :: above) m := by
  obtain ⟨below, hne, rfl⟩ := h
  exact ⟨below, hne, rfl⟩

/-- A run begins at the first name or is one of the others. -/
lemma HasRun.of_cons (h : conv.HasRun (part :: names) above m) :
    above = [] ∨ ∃ other, above = part :: other ∧ conv.HasRun names other m := by
  obtain ⟨below, hne, hnames⟩ := h
  rcases above with - | ⟨first, above⟩
  · exact .inl rfl
  · obtain ⟨rfl, rfl⟩ := List.cons.inj hnames
    exact .inr ⟨above, rfl, below, hne, rfl⟩

/-- No two modules have the last run. -/
lemma IsLastRun.unique (h : conv.IsLastRun names above m) (h' : conv.IsLastRun names other n) :
    m = n := by
  obtain ⟨below, -, hnames⟩ := h.run
  obtain ⟨below', -, hnames'⟩ := h'.run
  have hlength : above.length = other.length :=
    Nat.le_antisymm (h'.last above m h.run) (h.last other n h'.run)
  rw [hnames, List.append_assoc, List.append_assoc] at hnames'
  have hruns := (List.append_inj hnames' hlength).2
  simp only [List.cons_append, List.cons.injEq] at hruns
  exact hruns.2.2.1

end Convention

namespace Place

variable {conv : Convention} {names : List Text} {m : Text}

lemma lastModule?_eq_none_iff :
    lastModule? conv names = none ↔ ∀ above m, ¬conv.HasRun names above m := by
  constructor
  · rintro hnone above m ⟨below, hne, rfl⟩
    obtain ⟨first, rest, rfl⟩ := List.exists_cons_of_ne_nil hne
    -- the names from the run on have a module, and so have all
    obtain ⟨n, hn⟩ : ∃ n, lastModule? conv
        (conv.protectedDir :: conv.modulesDir :: m :: first :: rest) = some n := by
      rw [lastModule?_cons, if_pos ⟨rfl, rfl⟩]
      rcases lastModule? conv (conv.modulesDir :: m :: first :: rest) with - | n
      · exact ⟨m, rfl⟩
      · exact ⟨n, rfl⟩
    rw [List.append_assoc] at hnone
    cases hnone.symm.trans (lastModule?_append_of_some above hn)
  · intro hnone
    rcases hmodule : lastModule? conv names with - | m
    · rfl
    · obtain ⟨above, below, rfl, hne⟩ := exists_of_lastModule? hmodule
      exact absurd ⟨below, hne, by simp⟩ (hnone above m)

/-- The module of some names has the last run. -/
lemma exists_isLastRun (h : lastModule? conv names = some m) :
    ∃ above, conv.IsLastRun names above m := by
  induction names with
  | nil => cases h
  | cons part rest ih =>
    rcases hrest : lastModule? conv rest with - | n
    · -- the run begins at the first name, and so does every other
      have hfirst : ∀ other n, conv.HasRun (part :: rest) other n → other = [] := by
        intro other n hrun
        refine hrun.of_cons.resolve_right ?_
        rintro ⟨other, -, hlater⟩
        exact lastModule?_eq_none_iff.1 hrest other n hlater
      obtain ⟨above, below, hnames, hne⟩ := exists_of_lastModule? h
      have hrun : conv.HasRun (part :: rest) above m := ⟨below, hne, by rw [hnames]; simp⟩
      refine ⟨above, hrun, fun other n hother => ?_⟩
      rw [hfirst other n hother]
      exact Nat.zero_le _
    · have hsame : some n = some m := (lastModule?_append_of_some [part] hrest).symm.trans h
      cases hsame
      obtain ⟨above, hrun, hlast⟩ := ih hrest
      refine ⟨part :: above, hrun.cons part, fun other k hother => ?_⟩
      rcases hother.of_cons with rfl | ⟨other, rfl, hlater⟩
      · exact Nat.zero_le _
      · exact Nat.succ_le_succ (hlast other k hlater)

lemma lastModule?_eq_some_iff :
    lastModule? conv names = some m ↔ ∃ above, conv.IsLastRun names above m := by
  constructor
  · exact exists_isLastRun
  · rintro ⟨above, hlast⟩
    rcases hmodule : lastModule? conv names with - | n
    · exact absurd hlast.run (lastModule?_eq_none_iff.1 hmodule above m)
    · obtain ⟨other, hother⟩ := exists_isLastRun hmodule
      rw [hlast.unique hother]

/-! ## Parts above and below a root -/

/-- Parting a path at the root of a workspace loses nothing. -/
lemma above_append_inside (root : Option Text) (path : Text) :
    (Place.of root path).above ++ (Place.of root path).inside = (read (canonical path)).parts := by
  by_cases h : rootParts root <+: (read (canonical path)).parts
  · rw [of_eq_of_below h]
    obtain ⟨rest, hrest⟩ := h
    rw [← hrest]
    dsimp only
    rw [List.drop_left]
  · rw [of_eq_of_not_below h]
    rfl

lemma rootParts_of_ne_nil {r : Text} (h : r ≠ []) :
    rootParts (some r) = (read (canonical r)).parts := by
  obtain ⟨c, rest, rfl⟩ := List.exists_cons_of_ne_nil h
  rfl

/-- What is above is the root exactly when the path leads on from the root. -/
lemma above_eq_iff {r : Text} (h : r ≠ []) (path : Text) :
    (Place.of (some r) path).above = (read (canonical r)).parts
      ↔ (read (canonical r)).parts <+: (read (canonical path)).parts := by
  constructor
  · intro heq
    refine ⟨(Place.of (some r) path).inside, ?_⟩
    rw [← heq, above_append_inside]
  · intro hbegins
    rw [← rootParts_of_ne_nil h] at hbegins ⊢
    rw [of_eq_of_below hbegins]

/-- Nothing is above when there is no root that the path leads on from. -/
lemma above_eq_nil {root : Option Text} {path : Text}
    (h : ∀ r ∈ root, r ≠ [] → ¬(read (canonical r)).parts <+: (read (canonical path)).parts) :
    (Place.of root path).above = [] := by
  rcases root with - | r
  · rfl
  · by_cases hr : r = []
    · rw [hr]
      rfl
    · have hnone := h r rfl hr
      rw [← rootParts_of_ne_nil hr] at hnone
      rw [of_eq_of_not_below hnone]

/-- The names that end the segments of a path end its parts. -/
lemma exists_parts {p : Path} {front : List Text} (h : p.segments = front ++ names) :
    ∃ above, p.parts = above ++ names := by
  by_cases hanchor : p.anchor = .relative
  · exact ⟨front, (parts_of_relative hanchor).trans h⟩
  · exact ⟨p.anchor.print :: front, by rw [parts_of_anchored hanchor, h, List.cons_append]⟩

/-- Names that come behind the segments of a root are inside of it, and also when there is no
root. -/
lemma exists_inside {root : Option Text} {r path : Text} (hroot : root = none ∨ root = some r)
    (hup : up ∉ names) (h : segmentsOf path = segmentsOf r ++ names) :
    ∃ front, (Place.of root path).inside = front ++ names := by
  have hsegments := segments_canonical hup h
  have hall := exists_parts hsegments
  rw [inside_of]
  unfold partsBelow
  dsimp only
  split
  · rename_i hbegins
    by_cases hempty : rootParts root = []
    · rw [hempty]
      exact hall
    · have hparts : rootParts root = (read (canonical r)).parts := by
        rcases hroot with rfl | rfl
        · exact absurd rfl hempty
        · refine rootParts_of_ne_nil fun hr => hempty ?_
          rw [hr]
          rfl
      rw [hparts] at hempty hbegins ⊢
      -- the anchors are the same, so that the root has as many segments as come before the names
      have hanchor := (((isClean_read _).prefix_parts_iff (isClean_read _) hempty).1 hbegins).1
      have hown : (read (canonical r)).segments
          = (normalize ⟨(read (canonical r)).anchor, segmentsOf r⟩).segments := by
        have hself : segmentsOf r = segmentsOf r ++ [] := (List.append_nil _).symm
        have := segments_canonical List.not_mem_nil hself
        rwa [List.append_nil] at this
      refine ⟨[], ?_⟩
      rw [drop_parts hanchor, hsegments, ← hanchor, ← hown, List.drop_left]
      rfl
  · exact hall

/-! ## The main result -/

/-- **The module of a path is that of its last run.** Parting a path at the root of a workspace
loses nothing: what is above is the root, if its parts begin those of the path, and else nothing.
The module is that of the last run with something below it, and there is none without a run. So a
path that is put together of a root, the protected directory, the modules directory, a module and
names without another module is that module's, whatever the root looks like. -/
theorem module?_lastRun (conv : Convention) :
    (∀ (root : Option Text) (path : Text),
      let place := Place.of root path
      let parts := (read (canonical path)).parts
      (place.above ++ place.inside = parts
          ∧ (∀ r ∈ root, r ≠ [] → (place.above = (read (canonical r)).parts
            ↔ (read (canonical r)).parts <+: parts))
          ∧ ((∀ r ∈ root, r ≠ [] → ¬(read (canonical r)).parts <+: parts) → place.above = []))
        ∧ (∀ m, place.module? conv = some m ↔ ∃ above, conv.IsLastRun place.inside above m)
        ∧ (place.module? conv = none ↔ ∀ above m, ¬conv.HasRun place.inside above m))
      ∧ ∀ (r m : Text) (tail : List Text), IsPlain conv.protectedDir → IsPlain conv.modulesDir →
        conv.protectedDir ≠ conv.modulesDir → (∀ name ∈ m :: tail, IsPlain name) → tail ≠ [] →
        conv.HasNoModules (m :: tail) →
        let names := conv.protectedDir :: conv.modulesDir :: m :: tail
        ∀ root ∈ [none, some r], ∀ path ∈ [joinTexts r names, (ofTexts (r :: names)).print],
          (Place.of root path).module? conv = some m := by
  constructor
  · intro root path
    refine ⟨⟨above_append_inside root path, ?_, above_eq_nil⟩, fun m => lastModule?_eq_some_iff,
      lastModule?_eq_none_iff⟩
    rintro r hr hne
    rw [Option.mem_def.1 hr]
    exact above_eq_iff hne path
  · intro r m tail hprotected hmodules hdistinct hplain hne hnone names root hroot path hpath
    have hnames : ∀ name ∈ names, IsPlain name :=
      List.forall_mem_cons.2 ⟨hprotected, List.forall_mem_cons.2 ⟨hmodules, hplain⟩⟩
    have hjoined : segmentsOf (joinTexts r names) = segmentsOf r ++ names :=
      segmentsOf_joinTexts r hnames
    have hsegments : segmentsOf path = segmentsOf r ++ names := by
      rcases List.mem_pair.1 hpath with rfl | rfl
      · exact hjoined
      · rw [ofTexts_cons, segmentsOf_print_read, hjoined]
    have hup : up ∉ names := fun h => (hnames up h).ne_up rfl
    obtain ⟨front, hinside⟩ := exists_inside (List.mem_pair.1 hroot) hup hsegments
    show lastModule? conv (Place.of root path).inside = some m
    rw [hinside]
    exact lastModule?_append_run front hdistinct hne hnone.dropLast.dropLast

/-- Of two modules on the way to a file the inner one is found. Below a root that is a backslash,
which comes to be two slashes where the names are joined to it, a module is found that has the name
of the modules directory. -/
theorem module?_lastRun_nested :
    let nested := "/srv/protected/modules/old/app/protected/modules/shop/views/index.php".toList
    let inner := Place.of (some "/srv".toList) nested
    let modules := "modules".toList
    let tail := ["protected".toList, "index.php".toList]
    let joined := joinTexts "\\".toList ("protected".toList :: modules :: modules :: tail)
    let outer := Place.of (some "\\".toList) joined
    (inner.above = ["/".toList, "srv".toList]
        ∧ inner.module? .stock = some "shop".toList
        ∧ ∃ above, Convention.stock.IsLastRun inner.inside above "shop".toList)
      ∧ Convention.stock.HasNoModules (modules :: tail)
      ∧ (outer.above = [] ∧ outer.inside.head? = some "//".toList)
      ∧ outer.module? .stock = some modules := by
  intro nested inner modules tail joined outer
  obtain ⟨hplaces, hjoined⟩ := module?_lastRun .stock
  obtain ⟨⟨-, habove, -⟩, hmodule, -⟩ := hplaces (some "/srv".toList) nested
  have hroot : (read (canonical "/srv".toList)).parts = ["/".toList, "srv".toList] := by
    decide +kernel
  have hbegins : (read (canonical "/srv".toList)).parts <+: (read (canonical nested)).parts := by
    decide +kernel
  have hshop : inner.module? .stock = some "shop".toList := by
    decide +kernel
  have hnone : Convention.stock.HasNoModules (modules :: tail) := by
    decide
  have houter : outer.above = [] ∧ outer.inside.head? = some "//".toList := by
    decide +kernel
  refine ⟨⟨?_, hshop, (hmodule "shop".toList).1 hshop⟩, hnone, houter, ?_⟩
  · rw [← hroot]
    exact (habove "/srv".toList rfl (by decide)).2 hbegins
  · exact hjoined "\\".toList modules tail (by decide) (by decide) (by decide) (by decide)
      (by decide) hnone _ (List.mem_pair.2 (.inr rfl)) _ (List.mem_pair.2 (.inl rfl))

end Place
end YiiNavigator
