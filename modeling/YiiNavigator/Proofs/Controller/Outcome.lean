import YiiNavigator.Proofs.Controller.Lookup
import YiiNavigator.Proofs.FileSystem.History

/-!
# How the lookup of a controller ends

The lookup takes a path apart by steps that presuppose a segment: the last views directory, the name
below it, the names around a modules directory, the last name of all. Each step is stated with the
misuse that it would be without the segment, and none is ever reached that way (`search_eq`). So the
lookup ends in one of three ways, and which one is told by the segments of the path and by two file
names (`ofView_outcome`).
-/

namespace YiiNavigator

open YiiNavigator.Path

namespace Controller

variable {conv : Convention} {fs : FileSystem} {store : Store} {cwd : Text}
  {root : Option Text} {path directory id file : Text} {names below : List Text}

/-! ## The lookup step by step -/

/-- The last place where a name stands. It is a misuse to ask for a name that is not there. -/
def lastIndex (name : Text) (names : List Text) : Except Misuse ℕ :=
  (Place.lastIndex? name names).elim (.error .absentSegment) .ok

/-- The name at an index. It is a misuse to ask for one beyond the last. -/
def nameAt (names : List Text) (index : ℕ) : Except Misuse Text :=
  names[index]?.elim (.error .absentSegment) .ok

/-- The last name. It is a misuse to ask for that of no names. -/
def lastName (names : List Text) : Except Misuse Text :=
  names.getLast?.elim (.error .absentSegment) .ok

/-- Several names joined to a path. It is a misuse to join none. -/
def joinNames : List Text → Except Misuse Text
  | [] => .error .absentSegment
  | first :: others => .ok (joinTexts first others)

/-- The module of the last run whose modules directory stands at an index or before it, but not at
the front. -/
def searchModule (conv : Convention) (names : List Text) : ℕ → Except Misuse (Option Text)
  | 0 => .ok none
  | index + 1 => do
    let modules ← nameAt names (index + 1)
    let part ← nameAt names index
    if part = conv.protectedDir ∧ modules = conv.modulesDir then
      let module ← nameAt names (index + 2)
      return some module
    searchModule conv names index

/-- The names up to the last one that is that of the module, if it is among them. -/
def cutAtModule (module : Option Text) (names : List Text) : Except Misuse (List Text) :=
  match module with
  | none => .ok names
  | some m => if m ∈ names then do
      let index ← lastIndex m names
      return names.take (index + 1)
    else .ok names

/-- The directory that the controller of a view is looked for in, step by step. -/
def searchDirectory (conv : Convention) (root : Option Text) (place : Place) (index : ℕ) :
    Except Misuse Text := do
  let module ← searchModule conv place.inside (place.inside.length - 3)
  match root.filter (· ≠ []) with
  | some root => return conv.controllersDirectory root module
  | none =>
    let base ← cutAtModule module (place.inside.take index)
    let joined ← joinNames (base ++ [conv.controllersDir])
    return canonical joined

/-- What is found in a controller file, when only files that cannot be read count as such. -/
def searchIn (fs : FileSystem) (file : Text) (pick : Text → Option Text) :
    Except Misuse ControllerAction :=
  match fs.readText file with
  | .ok text => .ok ⟨file, pick text⟩
  | .error (.unreadable _ _) => .ok ⟨file, none⟩
  | .error (.misuse m) => .error m

/-- The lookup of the controller and the action of a view in the order of its steps, each of which
asks for the part of the path that it needs. -/
def search (conv : Convention) (fs : FileSystem) (root : Option Text) (path : Text) :
    Except Misuse (Except Failure ControllerAction) := do
  let place := Place.of root path
  if conv.viewsDir ∉ place.inside.dropLast then
    return .error (.outsideViews conv.viewsDir path)
  let index ← lastIndex conv.viewsDir place.inside.dropLast
  if place.inside.length - 1 ≤ index + 1 then
    return .error (.noControllerName path)
  let id ← nameAt place.inside (index + 1)
  let directory ← searchDirectory conv root place index
  match file? conv fs directory id with
  | none =>
    return .error (.controllerMissing (Naming.className id ++ conv.controllerSuffix) directory)
  | some file =>
    let last ← lastName place.inside
    let found ← searchIn fs file fun text => actionForView? conv text (View.unmarked (stemOf last))
    return .ok found

lemma lastIndex_append_cons {name : Text} (front : List Text) (h : name ∉ names) :
    lastIndex name (front ++ name :: names) = .ok front.length := by
  rw [lastIndex, Place.lastIndex?_append_cons front h]
  rfl

lemma nameAt_append (front names : List Text) (index : ℕ) :
    nameAt (front ++ names) (front.length + index) = nameAt names index := by
  rw [nameAt, List.getElem?_append_right (Nat.le_add_right _ _), Nat.add_sub_cancel_left]
  rfl

/-- The name right below a directory. -/
lemma nameAt_below (front below : List Text) (name id file : Text) :
    nameAt (front ++ name :: id :: below ++ [file]) (front.length + 1) = .ok id := by
  rw [List.append_assoc, nameAt_append]
  rfl

lemma lastName_concat (names : List Text) (name : Text) :
    lastName (names ++ [name]) = .ok name := by
  rw [lastName, List.getLast?_concat]
  rfl

lemma joinNames_concat (names : List Text) (name : Text) :
    joinNames (names ++ [name]) = .ok (joinAll (names ++ [name])) := by
  rcases names with - | ⟨first, names⟩
  · exact congrArg Except.ok (joinAll_cons name []).symm
  · exact congrArg Except.ok (joinAll_cons first (names ++ [name])).symm

/-- Of the runs of a path, the search through the indices from some names on finds those that begin
before them. -/
lemma searchModule_append (conv : Convention) (front : List Text) (a b c : Text)
    (below : List Text) :
    ∃ found, searchModule conv (front ++ a :: b :: c :: below) front.length = .ok found
      ∧ Place.lastModule? conv (front ++ a :: b :: c :: below)
        = (Place.lastModule? conv (a :: b :: c :: below)).or found := by
  -- the index goes down, and so the front loses its last name at each step
  induction front using List.reverseRecOn generalizing a b c below with
  | nil => exact ⟨none, rfl, (Option.or_none).symm⟩
  | append_singleton front part ih =>
    have hmodules : nameAt (front ++ part :: a :: b :: c :: below) (front.length + 1) = .ok a :=
      nameAt_append front _ 1
    have hpart : nameAt (front ++ part :: a :: b :: c :: below) front.length = .ok part :=
      nameAt_append front _ 0
    have hmodule : nameAt (front ++ part :: a :: b :: c :: below) (front.length + 2) = .ok b :=
      nameAt_append front _ 2
    rw [← List.append_cons, List.length_append, List.length_singleton]
    have hcons := Place.lastModule?_cons conv part a b c below
    by_cases hrun : part = conv.protectedDir ∧ a = conv.modulesDir
    · -- this run counts unless one below it does, whatever comes in front
      rw [if_pos hrun] at hcons
      obtain ⟨m, hm⟩ : ∃ m, Place.lastModule? conv (part :: a :: b :: c :: below) = some m := by
        rw [hcons]
        rcases Place.lastModule? conv (a :: b :: c :: below) with - | m
        · exact ⟨b, rfl⟩
        · exact ⟨m, rfl⟩
      refine ⟨some b, ?_, ?_⟩
      · rw [searchModule, hmodules, hpart, hmodule]
        exact if_pos hrun
      · rw [Place.lastModule?_append_of_some front hm, ← hm, hcons]
    · obtain ⟨found, hfound, hmodule⟩ := ih part a b (c :: below)
      refine ⟨found, ?_, ?_⟩
      · rw [← hfound, searchModule, hmodules, hpart]
        exact if_neg hrun
      · rw [hmodule, hcons, if_neg hrun, Option.or_none]

/-- The search for the module of a path through its indices, from the third last name on. -/
lemma searchModule_eq (conv : Convention) (names : List Text) :
    searchModule conv names (names.length - 3) = .ok (Place.lastModule? conv names) := by
  by_cases hlong : 3 ≤ names.length
  · obtain ⟨front, a, b, c, rfl⟩ : ∃ front a b c, names = front ++ [a, b, c] := by
      have hdrop : (names.drop (names.length - 3)).length = 3 := by
        rw [List.length_drop]
        omega
      obtain ⟨a, b, c, hlast⟩ := List.length_eq_three.1 hdrop
      exact ⟨names.take (names.length - 3), a, b, c, by rw [← hlast, List.take_append_drop]⟩
    obtain ⟨found, hfound, hmodule⟩ := searchModule_append conv front a b c []
    have hnone : Place.lastModule? conv [a, b, c] = none := rfl
    rw [List.length_append]
    show searchModule conv _ front.length = _
    rw [hfound, hmodule, hnone, Option.none_or]
  · rw [Nat.sub_eq_zero_of_le (by omega)]
    rcases names with - | ⟨a, - | ⟨b, - | ⟨c, names⟩⟩⟩
    · rfl
    · rfl
    · rfl
    · simp at hlong

lemma cutAtModule_eq (module : Option Text) (names : List Text) :
    cutAtModule module names = .ok (upToModule module names) := by
  rcases module with - | m
  · rfl
  · unfold cutAtModule upToModule
    dsimp only
    split
    · rename_i hmem
      obtain ⟨front, last, rfl, hlast⟩ := Text.exists_last hmem
      rw [lastIndex_append_cons front hlast, Place.lastIndex?_append_cons front hlast]
      rfl
    · rename_i hmem
      rw [Place.lastIndex?_of_notMem hmem]

lemma searchDirectory_eq (conv : Convention) (root : Option Text) (place : Place) (index : ℕ) :
    searchDirectory conv root place index = .ok (directoryOfView conv root place index) := by
  have hguess : (do
        let base ← cutAtModule (place.module? conv) (place.inside.take index)
        let joined ← joinNames (base ++ [conv.controllersDir])
        return canonical joined)
      = .ok (directoryOfView conv none place index) := by
    rw [cutAtModule_eq, directoryOfView_none]
    dsimp only [bind, Except.bind]
    rw [joinNames_concat]
    rfl
  unfold searchDirectory
  rw [searchModule_eq]
  -- without a root, and with the empty one, the directory is guessed
  rcases root with - | ⟨- | ⟨c, rest⟩⟩
  · exact hguess
  · exact hguess
  · rfl

/-- A store refuses no path. -/
lemma searchIn_store (store : Store) (file : Text) (pick : Text → Option Text) :
    searchIn (store.fileSystem cwd) file pick = .ok (matchIn (store.fileSystem cwd) file pick) := by
  have hread : (store.fileSystem cwd).readText file = store.readText file := rfl
  unfold searchIn matchIn
  rw [hread]
  rcases htext : store.textAt? file with - | text
  · rw [Store.readText_eq_error_iff.2 ⟨htext, rfl⟩]
  · rw [Store.readText_eq_ok_iff.2 htext]

/-- A view below no views directory belongs to nothing. -/
lemma ofView_of_notMem (h : conv.viewsDir ∉ (Place.of root path).inside.dropLast) :
    ofView conv fs root path = .error (.outsideViews conv.viewsDir path) := by
  unfold ofView Place.lastDirectory?
  dsimp only
  rw [Place.lastIndex?_of_notMem h]

/-- No step of the lookup in a store asks for what is not there. -/
lemma search_eq (conv : Convention) (store : Store) (cwd : Text) (root : Option Text)
    (path : Text) :
    search conv (store.fileSystem cwd) root path
      = .ok (ofView conv (store.fileSystem cwd) root path) := by
  unfold search
  dsimp only
  by_cases hviews : conv.viewsDir ∈ (Place.of root path).inside.dropLast
  · obtain ⟨above, front, below, file, hplace, hbelow⟩ := Place.exists_of_mem_directories hviews
    rw [ofView_eq_ofNames hplace hbelow, hplace]
    dsimp only
    rw [List.dropLast_concat, if_neg (not_not.2 (by simp)), lastIndex_append_cons front hbelow,
      lastName_concat]
    dsimp only [bind, Except.bind]
    rcases below with - | ⟨id, below⟩
    · -- the lookup stops before it asks for a name between the directory and the file
      have hlength : (front ++ conv.viewsDir :: [] ++ [file]).length - 1 ≤ front.length + 1 := by
        simp
      rw [if_pos hlength]
      rfl
    · have hlength : ¬(front ++ conv.viewsDir :: id :: below ++ [file]).length - 1
          ≤ front.length + 1 := by
        simp
      rw [if_neg hlength, nameAt_below, searchDirectory_eq]
      dsimp only [ofNames]
      rcases file? conv (store.fileSystem cwd) (directoryOfView conv root _ _) id with - | found
      · rfl
      · dsimp only
        rw [searchIn_store]
        rfl
  · rw [if_pos hviews, ofView_of_notMem hviews]
    rfl

/-! ## Outcomes -/

lemma matchIn_store (store : Store) (file : Text) (pick : Text → Option Text) :
    matchIn (store.fileSystem cwd) file pick = ⟨file, (store.textAt? file).bind pick⟩ := by
  have hread : (store.fileSystem cwd).readText file = store.readText file := rfl
  unfold matchIn
  rw [hread]
  rcases htext : store.textAt? file with - | text
  · rw [Store.readText_eq_error_iff.2 ⟨htext, rfl⟩]
    rfl
  · rw [Store.readText_eq_ok_iff.2 htext]
    rfl

/-- A view with a directory between it and the views directory belongs to the controller of that
directory, as long as a spelling of the controller's file exists. -/
lemma ofNames_outcome {outcome : Except Failure ControllerAction}
    (h : outcome = ofNames conv (store.fileSystem cwd) path directory (id :: below) file) :
    outcome.mapError Failure.kind ≠ .error .outsideConvention
      ∧ (outcome.mapError Failure.kind = .error .notFound
        ↔ ∀ spelling ∈ candidates conv directory id, store.has spelling = false)
      ∧ ((∃ spelling ∈ candidates conv directory id, store.has spelling = true) →
        ∃ found ∈ candidates conv directory id, store.has found = true
          ∧ outcome = .ok ⟨found, (store.textAt? found).bind fun text =>
            actionForView? conv text (View.unmarked (stemOf file))⟩) := by
  rcases hfile : file? conv (store.fileSystem cwd) directory id with - | found
  · have habsent : ∀ spelling ∈ candidates conv directory id, store.has spelling = false :=
      fun spelling hspelling => Bool.eq_false_iff.2 (List.find?_eq_none.1 hfile spelling hspelling)
    have houtcome : outcome.mapError Failure.kind = .error .notFound := by
      simp only [h, ofNames, hfile]
      rfl
    refine ⟨?_, iff_of_true houtcome habsent, ?_⟩
    · rw [houtcome]
      exact nofun
    · rintro ⟨spelling, hspelling, hhas⟩
      rw [habsent spelling hspelling] at hhas
      cases hhas
  · have hmem : found ∈ candidates conv directory id := List.mem_of_find?_eq_some hfile
    have hhas : store.has found = true := List.find?_some hfile
    have houtcome : outcome = .ok ⟨found, (store.textAt? found).bind fun text =>
        actionForView? conv text (View.unmarked (stemOf file))⟩ := by
      simp only [h, ofNames, hfile, matchIn_store]
    refine ⟨?_, iff_of_false ?_ fun habsent => ?_, fun _ => ⟨found, hmem, hhas, houtcome⟩⟩
    · rw [houtcome]
      exact nofun
    · rw [houtcome]
      exact nofun
    · rw [habsent found hmem] at hhas
      cases hhas

/-- What a view belongs to is decided by the directories that lead to it. -/
lemma ofView_cases (conv : Convention) (fs : FileSystem) (root : Option Text) (path : Text) :
    let names := Place.partsBelow root path
    (conv.viewsDir ∉ names.dropLast
        ∧ ofView conv fs root path = .error (.outsideViews conv.viewsDir path))
      ∨ ∃ front below file, names = front ++ conv.viewsDir :: below ++ [file]
        ∧ conv.viewsDir ∉ below
        ∧ ofView conv fs root path = ofNames conv fs path
          (directoryOfView conv root (Place.of root path) front.length) below file := by
  intro names
  have hinside : (Place.of root path).inside = names := Place.inside_of root path
  by_cases hviews : conv.viewsDir ∈ names.dropLast
  · right
    rw [← hinside] at hviews
    obtain ⟨above, front, below, file, hplace, hbelow⟩ := Place.exists_of_mem_directories hviews
    refine ⟨front, below, file, hinside.symm.trans (congrArg Place.inside hplace), hbelow, ?_⟩
    rw [ofView_eq_ofNames hplace hbelow, ← hplace]
  · left
    exact ⟨hviews, ofView_of_notMem (hinside ▸ hviews)⟩

/-- The lookup of a view's controller in a store asks for nothing that is not there. It ends outside
the convention when no directory is the views directory, or only one that the file lies directly in.
Otherwise it ends without a controller when neither spelling of its file exists, and else in one of
these files, with the action that the text has for the view, if it has a text. -/
theorem ofView_outcome (conv : Convention) (store : Store) (cwd : Text) (root : Option Text)
    (path : Text) :
    let outcome := ofView conv (store.fileSystem cwd) root path
    let names := Place.partsBelow root path
    search conv (store.fileSystem cwd) root path = .ok outcome
      ∧ (outcome.mapError Failure.kind = .error .outsideConvention
        ↔ conv.viewsDir ∉ names.dropLast ∨ names.dropLast.getLast? = some conv.viewsDir)
      ∧ (conv.viewsDir ∈ names.dropLast → names.dropLast.getLast? ≠ some conv.viewsDir →
        ∃ front id below file, names = front ++ conv.viewsDir :: id :: below ++ [file]
          ∧ conv.viewsDir ∉ id :: below
          ∧ let directory := directoryOfView conv root (Place.of root path) front.length
            let spellings := candidates conv directory id
            (outcome.mapError Failure.kind = .error .notFound
                ↔ ∀ spelling ∈ spellings, store.has spelling = false)
              ∧ ((∃ spelling ∈ spellings, store.has spelling = true) →
                ∃ found ∈ spellings, store.has found = true
                  ∧ outcome = .ok ⟨found, (store.textAt? found).bind fun text =>
                    actionForView? conv text (View.unmarked (stemOf file))⟩)) := by
  intro outcome names
  refine ⟨search_eq conv store cwd root path, ?_⟩
  obtain ⟨hviews, houtcome⟩ | ⟨front, below, file, hnames, hbelow, houtcome⟩ :=
    ofView_cases conv (store.fileSystem cwd) root path
  · exact ⟨iff_of_true (congrArg (Except.mapError Failure.kind) houtcome) (.inl hviews),
      fun h => absurd h hviews⟩
  · have hmem : conv.viewsDir ∈ names.dropLast := by
      simp only [names, hnames, List.dropLast_concat]
      exact List.mem_append_right _ List.mem_cons_self
    have hlast : names.dropLast.getLast? = some conv.viewsDir ↔ below = [] := by
      simp only [names, hnames]
      exact Place.getLast?_dropLast_append hbelow
    rcases below with - | ⟨id, below⟩
    · exact ⟨iff_of_true (congrArg (Except.mapError Failure.kind) houtcome) (.inr (hlast.2 rfl)),
        fun _ hne => absurd (hlast.2 rfl) hne⟩
    · obtain ⟨hkind, hfound⟩ := ofNames_outcome houtcome
      refine ⟨iff_of_false hkind ?_, fun _ _ => ⟨front, id, below, file, hnames, hbelow, hfound⟩⟩
      rintro (hnone | hdirect)
      · exact hnone hmem
      · cases hlast.1 hdirect

/-- A controller file that exists only as a directory has no action. -/
theorem ofView_outcome_directory :
    let controller := "/ws/protected/controllers/SiteController.php".toList
    let store := Store.build [] [controller]
    let path := "/ws/protected/views/site/_menu.php".toList
    let names := Place.partsBelow (some "/ws".toList) path
    Convention.stock.viewsDir ∈ names.dropLast
      ∧ names.dropLast.getLast? ≠ some Convention.stock.viewsDir
      ∧ ∃ found, store.has found = true
        ∧ ofView .stock (store.fileSystem ['/']) (some "/ws".toList) path = .ok ⟨found, none⟩ := by
  intro controller store path names
  have hviews : Convention.stock.viewsDir ∈ names.dropLast := by
    decide +kernel
  have hlast : names.dropLast.getLast? ≠ some Convention.stock.viewsDir := by
    decide +kernel
  obtain ⟨-, -, hother⟩ := ofView_outcome .stock store ['/'] (some "/ws".toList) path
  obtain ⟨front, id, below, file, hsplit, hbelow, -, hfound⟩ := hother hviews hlast
  have hnames : names = front ++ Convention.stock.viewsDir :: id :: below ++ [file] := hsplit
  have hindex : front.length = 1 := by
    have hviewsAt : lastIndex Convention.stock.viewsDir names.dropLast = .ok 1 := by
      decide +kernel
    rw [hnames, List.dropLast_concat, lastIndex_append_cons front hbelow] at hviewsAt
    exact Except.ok.inj hviewsAt
  have hid : id = "site".toList := by
    have hsite : nameAt names (front.length + 1) = .ok "site".toList := by
      rw [hindex]
      decide +kernel
    rw [hnames, nameAt_below] at hsite
    exact Except.ok.inj hsite
  rw [hindex, hid] at hfound
  obtain ⟨found, -, hhas, hok⟩ := hfound (by decide +kernel)
  exact ⟨hviews, hlast, found, hhas, hok⟩

end Controller
end YiiNavigator
