import YiiNavigator.Proofs.Action.Catalog
import YiiNavigator.Proofs.Controller.RoundTrip
import YiiNavigator.Proofs.FileSystem.History
import YiiNavigator.Route

/-!
# Routes to declared actions

The route of an action is made of its module, its controller and its name, the last two with small
letters in front. It leads to the controller, and to the first of its actions that has this name in
letters of either case.
-/

namespace YiiNavigator

open YiiNavigator.Path

/-! ## Names of declared actions -/

namespace Action

variable {conv : Convention} {text name : Text} {action : Action}

/-- The name of a declared action goes on after the prefix with a capital and name characters. -/
lemma exists_of_mem_catalog (haction : action ∈ catalog conv text)
    (hname : action.name = conv.actionPrefix ++ name) :
    ∃ capital rest, name = capital :: rest ∧ Text.isCapital capital = true
      ∧ rest.all Text.isNameChar = true := by
  obtain ⟨header, hheader, rfl⟩ := List.mem_map.1 haction
  obtain ⟨⟨capital, rest, hvalue, hcapital, hrest⟩, -⟩ := isHeader_of_mem hheader
  rw [name_ofHeader, hvalue] at hname
  exact ⟨capital, rest, (List.append_cancel_left hname).symm, hcapital, hrest⟩

end Action

namespace Naming

variable {conv : Convention} {capital : Char} {rest : Text}

/-- The method name of the id of an action is the name that the action is declared by. -/
lemma methodName_lowerFirst (hcapital : Text.isCapital capital = true)
    (hrest : rest.all Text.isNameChar = true) (hunderscore : '_' ∉ rest) :
    methodName conv (Text.lowerFirst (capital :: rest))
      = conv.actionPrefix ++ capital :: rest := by
  have hupper : capital.isUpper = true := Text.isUpper_of_isCapital hcapital
  have halpha : capital.isAlpha = true := by
    rw [Char.isAlpha, hupper, Bool.true_or]
  -- an underscore is a name character that would separate words, and so start a capital
  have hseparator : ∀ c ∈ rest, isSeparator c = false := by
    intro c hc
    rw [← Bool.not_eq_true]
    intro heq
    simp only [isSeparator, Bool.or_eq_true, beq_iff_eq] at heq
    rcases heq with rfl | rfl
    · exact absurd (List.all_eq_true.1 hrest _ hc) (by decide)
    · exact hunderscore hc
  have hlower : ¬capital.isLower = true := fun h => Char.not_isUpper_of_isLower h hupper
  unfold methodName
  rw [className_lowerFirst_cons halpha hseparator, Text.upperFirst_cons halpha,
    Char.toUpper_eq_of_not_isLower hlower]

/-- The id of an action is a segment of a route. -/
lemma isRouteSegment_lowerFirst (hcapital : Text.isCapital capital = true)
    (hrest : rest.all Text.isNameChar = true) :
    Text.lowerFirst (capital :: rest) ≠ [] ∧ '/' ∉ Text.lowerFirst (capital :: rest) := by
  have halpha : capital.isAlpha = true := by
    rw [Char.isAlpha, Text.isUpper_of_isCapital hcapital, Bool.true_or]
  have hslash : '/' ∉ rest := fun hc => absurd (List.all_eq_true.1 hrest _ hc) (by decide)
  have hfirst : '/' ≠ capital.toLower := by
    intro heq
    have hlower : capital.toLower.isAlpha = true := by
      rw [Char.isAlpha_toLower_eq_isAlpha, halpha]
    rw [← heq] at hlower
    exact absurd hlower (by decide)
  rw [Text.lowerFirst_cons halpha]
  exact ⟨List.cons_ne_nil _ _, List.not_mem_cons_of_ne_of_not_mem hfirst hslash⟩

end Naming

namespace Route

variable {conv : Convention} {p : Path} {module : Option Text} {path stem text : Text}

/-! ## Segments -/

/-- Slashes in front of a route add no segments. -/
lemma segments_replicate_append (n : ℕ) (route : Text) :
    segments (List.replicate n '/' ++ route) = segments route := by
  induction n with
  | zero => rfl
  | succ n ih =>
    have hcons : ∀ text : Text, segments ('/' :: text) = segments text := by
      intro text
      unfold segments
      rw [show '/' :: text = [] ++ '/' :: text from rfl, List.splitOn_append_cons_self]
      rfl
    rw [List.replicate_succ, List.cons_append, hcons, ih]

/-- Names joined by slashes are the segments of the route that they make. -/
lemma segments_intercalate {names : List Text} (hne : names ≠ [])
    (hnames : ∀ name ∈ names, name ≠ [] ∧ '/' ∉ name) :
    segments (['/'].intercalate names) = names := by
  unfold segments
  rw [List.splitOn_intercalate '/' (fun name h => (hnames name h).2) hne]
  exact List.filter_eq_self.2 fun name h => by simpa using (hnames name h).1

/-! ## The controller of a route -/

/-- The directory of a module exists if a controller of the module does. -/
lemma has_moduleDirectory {history : List Store.Change} {name : Text} (hconv : conv.IsPlain)
    (hp : p.IsNormal) (hmodule : IsPlain name) (hstem : Naming.isStem stem = true)
    (htext : (Store.empty.changeAll history).readText
      (conv.controllerFile p.print (some name) stem) = .ok text) :
    (Store.empty.changeAll history).has
      (joinTexts p.print [conv.protectedDir, conv.modulesDir, name]) = true := by
  have hplain : ∀ other ∈ some name, IsPlain other := fun other h => by
    cases h
    exact hmodule
  have htrail : ∀ other ∈ conv.trail (some name), IsName other ∧ other ≠ up := fun other h =>
    have := hconv.hasPlainNames.trail hplain other h
    ⟨this.isName, this.ne_up⟩
  have hcontrollers := hconv.hasPlainNames.controllersDir
  have hfile := Controller.isPlain_fileName hconv hstem
  have hjoin : joinTexts p.print [conv.protectedDir, conv.modulesDir, name]
      = (p.under (conv.trail (some name))).print :=
    hp.clean.joinTexts hp.anchored fun other h => (htrail other h).1
  rw [Controller.controllerFile_eq hconv hstem hplain hp.clean hp.anchored, ← under_under] at htext
  rw [hjoin]
  exact Store.has_of_under (hp.under htrail)
    (List.forall_mem_singleton.2 ⟨hcontrollers.isName, hcontrollers.ne_up⟩)
    ⟨hfile.isName, hfile.ne_up⟩ htext

/-- The file of a controller whose stem begins with a capital is the one of its id. -/
lemma file?_eq_of_isUpper {fs : FileSystem} (hstem : Naming.isStem stem = true)
    (hcapital : stem.head?.any Char.isUpper = true) {root : Text}
    (hpresent : fs.has (conv.controllerFile root module stem) = true) :
    Controller.file? conv fs (conv.controllersDirectory root module) (Text.lowerFirst stem)
      = some (conv.controllerFile root module stem) := by
  -- the file with a capital is looked for first, so that only a small letter could be preceded
  refine Controller.file?_eq hstem fs hpresent fun hsmall => ?_
  obtain ⟨c, rest, rfl, -⟩ := Naming.exists_of_isStem hstem
  exact absurd hcapital (Char.not_isUpper_of_isLower hsmall)

/-- From a file outside the modules, the route of a controller leads to it, whatever is asked of
its actions. -/
lemma query?_eq {fs : FileSystem} {root id action : Text}
    (hplace : (Place.of (some root) path).module? conv = none)
    (hmodule : ∀ name ∈ module,
      fs.has (joinTexts root [conv.protectedDir, conv.modulesDir, name]) = true) :
    query? conv fs root path (module.toList ++ [id, action])
      = some ⟨id, action, [conv.controllersDirectory root module]⟩ := by
  -- three segments name a module if its directory exists; two are read by the place of the file
  rcases module with - | name
  · show some (⟨id, action, directoriesFor conv root path⟩ : Query) = _
    unfold directoriesFor
    rw [hplace]
  · exact if_pos (hmodule name rfl)

/-! ## The action of a route -/

/-- A declared action has a first one of its name in letters of either case, and that one is found
for its id. -/
lemma exists_actionNamed? {action : Action} {name : Text}
    (haction : action ∈ Action.catalog conv text)
    (hname : action.name = conv.actionPrefix ++ name)
    (hid : Naming.methodName conv (Text.lowerFirst name) = conv.actionPrefix ++ name) :
    ∃ first, (Action.catalog conv text).find? (fun other =>
        Text.lower other.name == Text.lower (conv.actionPrefix ++ name)) = some first
      ∧ actionNamed? conv text (Text.lowerFirst name) = some first.name := by
  have hfound : ((Action.catalog conv text).find? fun other =>
      Text.lower other.name == Text.lower (conv.actionPrefix ++ name)).isSome = true :=
    List.find?_isSome.2 ⟨action, haction, by rw [hname, beq_self_eq_true]⟩
  obtain ⟨first, hfirst⟩ := Option.isSome_iff_exists.1 hfound
  refine ⟨first, hfirst, ?_⟩
  unfold actionNamed?
  dsimp only
  rw [hid, hfirst]
  rfl

/-! ## Routes -/

/-- The segments of the route of an action: its module, if there is one, its controller and its
name. -/
def trailTo (module : Option Text) (stem name : Text) : List Text :=
  module.toList ++ [Text.lowerFirst stem, Text.lowerFirst name]

lemma segments_trailTo {name : Text} (slashes : ℕ) (hmodule : ∀ other ∈ module, IsPlain other)
    (hstem : Naming.isStem stem = true)
    (hname : Text.lowerFirst name ≠ [] ∧ '/' ∉ Text.lowerFirst name) :
    segments (List.replicate slashes '/' ++ ['/'].intercalate (trailTo module stem name))
      = trailTo module stem name := by
  have hcontroller : IsPlain (Text.lowerFirst stem) :=
    Naming.isPlain_of_isStem (Naming.isStem_lowerFirst hstem)
  rw [segments_replicate_append, segments_intercalate]
  · simp [trailTo]
  · refine List.forall_mem_append.2 ⟨fun other hother => ?_, ?_⟩
    · have hplain := hmodule other (Option.mem_toList.1 hother)
      exact ⟨hplain.ne_nil, hplain.no_slash⟩
    · exact List.forall_mem_cons.2 ⟨⟨hcontroller.ne_nil, hcontroller.no_slash⟩,
        List.forall_mem_singleton.2 hname⟩

/-- **Every declared action is reached by its route.** From a file outside the modules, the route
leads to the controller that declares the action and to its first action of that name in letters of
either case, whatever slashes are in front of the route. -/
theorem target_trailTo {files : List (Text × Text)} {directories : List Text}
    {changes : List Store.Change} {root name : Text} {action : Action} (hconv : conv.IsPlain)
    (hroot : IsAbsolute root) (hmodule : ∀ other ∈ module, IsPlain other)
    (hstem : Naming.isStem stem = true) (hcapital : stem.head?.any Char.isUpper = true)
    (htext : ((Store.build files directories).changeAll changes).readText
      (conv.controllerFile root module stem) = .ok text)
    (haction : action ∈ Action.catalog conv text)
    (hname : action.name = conv.actionPrefix ++ name) (hunderscore : '_' ∉ name)
    (hplace : (Place.of (some root) path).module? conv = none) (slashes : ℕ) (cwd : Text) :
    ∃ first, (Action.catalog conv text).find? (fun other =>
        Text.lower other.name == Text.lower (conv.actionPrefix ++ name)) = some first
      ∧ target conv (((Store.build files directories).changeAll changes).fileSystem cwd) root path
          (List.replicate slashes '/' ++ ['/'].intercalate (trailTo module stem name))
        = .ok ⟨conv.controllerFile root module stem, some first.name⟩ := by
  obtain ⟨p, hp, rfl⟩ := hroot.exists_normal
  rw [Store.changeAll_build] at htext ⊢
  set store := Store.empty.changeAll (Store.additions files directories changes)
  obtain ⟨capital, rest, rfl, hletter, hrest⟩ := Action.exists_of_mem_catalog haction hname
  have hid : Naming.methodName conv (Text.lowerFirst (capital :: rest))
      = conv.actionPrefix ++ capital :: rest :=
    Naming.methodName_lowerFirst hletter hrest fun h => hunderscore (List.mem_cons_of_mem _ h)
  obtain ⟨first, hfirst, hfound⟩ := exists_actionNamed? haction hname hid
  have hmoduleDirectory : ∀ other ∈ module, (store.fileSystem cwd).has
      (joinTexts p.print [conv.protectedDir, conv.modulesDir, other]) = true := by
    rintro other rfl
    exact has_moduleDirectory hconv hp (hmodule other rfl) hstem htext
  -- what is looked up on the way: the directory, the file in it and its text
  have hquery : query? conv (store.fileSystem cwd) p.print path
        (trailTo module stem (capital :: rest))
      = some ⟨Text.lowerFirst stem, Text.lowerFirst (capital :: rest),
        [conv.controllersDirectory p.print module]⟩ := query?_eq hplace hmoduleDirectory
  have hfile : Controller.file? conv (store.fileSystem cwd)
      (conv.controllersDirectory p.print module) (Text.lowerFirst stem)
        = some (conv.controllerFile p.print module stem) :=
    file?_eq_of_isUpper hstem hcapital (Store.has_of_readText htext)
  have hread : (store.fileSystem cwd).readText (conv.controllerFile p.print module stem)
      = .ok text := htext
  refine ⟨first, hfirst, ?_⟩
  unfold target
  rw [segments_trailTo slashes hmodule hstem (Naming.isRouteSegment_lowerFirst hletter hrest),
    hquery]
  dsimp only
  rw [List.findSome?_cons, hfile]
  unfold Controller.matchIn
  dsimp only
  rw [hread]
  dsimp only
  rw [hfound]

/-- In a module, below a root with a backslash in it, the route of an action leads to an earlier
action whose name differs from its own in case only. -/
theorem target_trailTo_otherCase :
    let text := "<?php\nfunction actionAddITEM() \x7b\x7d\nfunction actionAddItem() \x7b\x7d".toList
    let file := "/w\\x/protected/modules/shop/controllers/CartController.php".toList
    let store := Store.build [(file, text)] []
    (Action.catalog .stock text).map (·.name)
        = ["actionAddITEM".toList, "actionAddItem".toList]
      ∧ target .stock (store.fileSystem ['/']) "/w\\x".toList "/w\\x/protected/views/a/b.php".toList
          "//shop/cart/addItem".toList
        = .ok ⟨file, some "actionAddITEM".toList⟩ := by
  intro text file store
  have hconv : Convention.stock.IsPlain :=
    ⟨by decide, by decide, by decide, by decide⟩
  have hroot : IsAbsolute "/w\\x".toList :=
    ⟨by decide, by decide +kernel⟩
  have hmodule : ∀ other ∈ some "shop".toList, IsPlain other := by
    rintro other ⟨⟩
    decide
  have hstem : Naming.isStem "Cart".toList = true := by
    decide
  have hcapital : "Cart".toList.head?.any Char.isUpper = true := by
    decide
  have hfile : Convention.stock.controllerFile "/w\\x".toList (some "shop".toList) "Cart".toList
      = file := by
    decide +kernel
  have htext : ((Store.build [(file, text)] []).changeAll []).readText
      (Convention.stock.controllerFile "/w\\x".toList (some "shop".toList) "Cart".toList)
      = .ok text := by
    decide +kernel
  have hnames : (Action.catalog .stock text).map (·.name)
      = ["actionAddITEM".toList, "actionAddItem".toList] := by
    decide +kernel
  obtain ⟨action, haction, hname⟩ : ∃ action ∈ Action.catalog .stock text,
      action.name = Convention.stock.actionPrefix ++ "AddItem".toList :=
    List.mem_map.1 (by rw [hnames]; decide)
  have hplace : (Place.of (some "/w\\x".toList) "/w\\x/protected/views/a/b.php".toList).module?
      .stock = none := by
    decide +kernel
  obtain ⟨first, hfirst, htarget⟩ := target_trailTo hconv hroot hmodule hstem hcapital htext
    haction hname (by decide) hplace 2 ['/']
  have hother : ((Action.catalog .stock text).find? fun other =>
      Text.lower other.name == Text.lower ("action".toList ++ "AddItem".toList)).map (·.name)
      = some "actionAddITEM".toList := by
    decide +kernel
  have hfirst' : first.name = "actionAddITEM".toList := by
    have hfound : ((Action.catalog .stock text).find? fun other =>
        Text.lower other.name == Text.lower ("action".toList ++ "AddItem".toList))
        = some first := hfirst
    rw [hfound] at hother
    exact Option.some.inj hother
  rw [hfile, hfirst'] at htarget
  exact ⟨hnames, htarget⟩

end Route
end YiiNavigator
