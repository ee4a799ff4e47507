import Mathlib.Data.List.Basic
import Mathlib.Logic.Relation
import YiiNavigator.FileSystem.Store
import YiiNavigator.Proofs.Convention
import YiiNavigator.Route

/-!
# Routes that lead to one target

A route is read segment by segment, and only the first segments count: three of them if the first
one names a module, and two of them else. Of a controller or an action only the words of the segment
count. So routes with the same leading segments, up to the hyphens and underscores that separate
words, lead to the same target (`target_leadingSegments`).
-/

namespace YiiNavigator

open YiiNavigator.Path

/-! ## Spellings of an id -/

namespace Naming

variable {c : Char} {id id' : Text}

/-- One change to the separators of an id: a separator takes the place of another one, comes before
or behind the id, or comes again where one is. -/
inductive Respelling : Text → Text → Prop where
  | swap {c d : Char} (front back : Text) (hc : isSeparator c = true) (hd : isSeparator d = true) :
    Respelling (front ++ c :: back) (front ++ d :: back)
  | before {c : Char} (id : Text) (hc : isSeparator c = true) : Respelling id (c :: id)
  | behind {c : Char} (id : Text) (hc : isSeparator c = true) : Respelling id (id ++ [c])
  | again {c : Char} (front back : Text) (hc : isSeparator c = true) :
    Respelling (front ++ c :: back) (front ++ c :: c :: back)

@[simp]
lemma words_nil : words [] = [] :=
  rfl

/-- The words of an id are those before a separator and those behind it. -/
lemma words_append_cons (front back : Text) (hc : isSeparator c = true) :
    words (front ++ c :: back) = words front ++ words back := by
  unfold words
  rw [List.splitOnP_append_cons front back hc, List.filter_append]

lemma words_cons (id : Text) (hc : isSeparator c = true) : words (c :: id) = words id :=
  words_append_cons [] id hc

lemma words_concat (id : Text) (hc : isSeparator c = true) : words (id ++ [c]) = words id := by
  rw [words_append_cons id [] hc, words_nil, List.append_nil]

/-- An id has the same words when its separators change. -/
lemma Respelling.words_eq (h : Respelling id id') : words id' = words id := by
  cases h with
  | swap front back hc hd => rw [words_append_cons _ _ hc, words_append_cons _ _ hd]
  | before id hc => exact words_cons id hc
  | behind id hc => exact words_concat id hc
  | again front back hc =>
    rw [words_append_cons _ _ hc, words_append_cons _ _ hc, words_cons back hc]

lemma words_eq_of_reflTransGen (h : Relation.ReflTransGen Respelling id id') :
    words id' = words id := by
  induction h with
  | refl => rfl
  | tail _ hstep ih => rw [hstep.words_eq, ih]

lemma className_congr (h : words id' = words id) : className id' = className id := by
  unfold className
  rw [h]

end Naming

/-- Ids with the same words are those of one controller. -/
lemma Controller.file?_congr {conv : Convention} {fs : FileSystem} {id id' : Text}
    (h : Naming.words id' = Naming.words id) (directory : Text) :
    file? conv fs directory id' = file? conv fs directory id := by
  unfold file? candidates Naming.lowerClassName
  rw [Naming.className_congr h]

/-! ## Failures that quote a route -/

/-- The failure with another route quoted in it. -/
def Failure.quoting (route : Text) : Failure → Failure
  | .routeTooShort _ => .routeTooShort route
  | .routeControllerMissing _ className => .routeControllerMissing route className
  | failure => failure

@[simp]
lemma Failure.kind_quoting (route : Text) (failure : Failure) :
    (failure.quoting route).kind = failure.kind := by
  cases failure <;> rfl

namespace Route

variable {conv : Convention} {fs : FileSystem} {root path route route' : Text}

/-! ## What is asked for -/

/-- The directory of a module. -/
def moduleDirectory (conv : Convention) (root name : Text) : Text :=
  joinTexts root [conv.protectedDir, conv.modulesDir, name]

/-- What counts of a query: the words of the controller and of the action, and the directories that
the controller is looked for in. -/
def Query.essence (q : Query) : List Text × List Text × List Text :=
  (Naming.words q.controller, Naming.words q.action, q.directories)

lemma actionNamed?_congr {id id' : Text} (h : Naming.words id' = Naming.words id) (text : Text) :
    actionNamed? conv text id' = actionNamed? conv text id := by
  unfold actionNamed? Naming.methodName
  rw [Naming.className_congr h]

/-- Routes that ask for the same lead to the same target. -/
lemma target_eq_of_essence
    (h : (query? conv fs root path (segments route)).map Query.essence
      = (query? conv fs root path (segments route')).map Query.essence) :
    target conv fs root path route'
      = (target conv fs root path route).mapError (Failure.quoting route') := by
  unfold target
  rcases hquery : query? conv fs root path (segments route) with - | q
  · rw [hquery, Option.map_none] at h
    rw [Option.map_eq_none_iff.1 h.symm]
    rfl
  · rw [hquery, Option.map_some] at h
    obtain ⟨q', hquery', hsame⟩ := Option.map_eq_some_iff.1 h.symm
    obtain ⟨hcontroller, haction, hdirectories⟩ : Naming.words q'.controller
        = Naming.words q.controller ∧ Naming.words q'.action = Naming.words q.action
          ∧ q'.directories = q.directories := by
      simpa [Query.essence] using hsame
    rw [hquery']
    dsimp only
    rw [hdirectories, Naming.className_congr hcontroller]
    simp only [Controller.file?_congr hcontroller, actionNamed?_congr haction]
    rcases q.directories.findSome? (Controller.file? conv fs · q.controller) with - | file
    · rfl
    · rfl

/-- Three segments of a route count. -/
lemma query?_take_three (names : List Text) :
    query? conv fs root path names = query? conv fs root path (names.take 3) := by
  rcases names with - | ⟨first, - | ⟨second, - | ⟨third, rest⟩⟩⟩ <;> rfl

/-- Two segments of a route count, if the first one does not name a module. -/
lemma query?_take_two {names : List Text}
    (hmodule : ∀ first ∈ names.head?, fs.has (moduleDirectory conv root first) = false) :
    query? conv fs root path names = query? conv fs root path (names.take 2) := by
  rcases names with - | ⟨first, - | ⟨second, - | ⟨third, rest⟩⟩⟩
  · rfl
  · rfl
  · rfl
  · have hfirst : ¬fs.has (joinTexts root [conv.protectedDir, conv.modulesDir, first]) = true := by
      rw [Bool.not_eq_true]
      exact hmodule first rfl
    exact if_neg hfirst

/-- A segment counts by its words, unless it names a module. -/
lemma essence_respelled {front back : List Text} {id id' : Text}
    (hwords : Naming.words id' = Naming.words id)
    (hmodule : front = [] → fs.has (moduleDirectory conv root id) = false
      ∧ fs.has (moduleDirectory conv root id') = false) :
    (query? conv fs root path (front ++ id :: back)).map Query.essence
      = (query? conv fs root path (front ++ id' :: back)).map Query.essence := by
  rcases front with - | ⟨first, - | ⟨second, - | ⟨third, front⟩⟩⟩
  · obtain ⟨hid, hid'⟩ := hmodule rfl
    have htwo : query? conv fs root path (id :: back)
        = query? conv fs root path ((id :: back).take 2) :=
      query?_take_two (by rintro _ ⟨⟩; exact hid)
    have htwo' : query? conv fs root path (id' :: back)
        = query? conv fs root path ((id' :: back).take 2) :=
      query?_take_two (by rintro _ ⟨⟩; exact hid')
    rw [List.nil_append, List.nil_append, htwo, htwo']
    rcases back with - | ⟨second, back⟩
    · rfl
    · show some (Naming.words id, _) = some (Naming.words id', _)
      rw [hwords]
  · rcases back with - | ⟨third, back⟩
    · show some (_, Naming.words id, _) = some (_, Naming.words id', _)
      rw [hwords]
    · -- the segment is the controller in a module, and the action in the application
      simp only [List.cons_append, List.nil_append, query?]
      split
      · simp only [Option.map_some, Query.essence, hwords]
      · simp only [Option.map_some, Query.essence, hwords]
  · simp only [List.cons_append, List.nil_append, query?]
    split
    · simp only [Option.map_some, Query.essence, hwords]
    · rfl
  · rfl

/-! ## Targets -/

/-- Whether two routes lead to the same target from a file, or fail in the same way but for the
route that the failure quotes. -/
def LeadAlike (conv : Convention) (fs : FileSystem) (root path route route' : Text) : Prop :=
  target conv fs root path route'
    = (target conv fs root path route).mapError (Failure.quoting route')

/-- Routes that lead alike fail with one kind of failure, if they fail. -/
lemma LeadAlike.mapError_kind (h : LeadAlike conv fs root path route route') :
    (target conv fs root path route').mapError Failure.kind
      = (target conv fs root path route).mapError Failure.kind := by
  rw [h]
  rcases target conv fs root path route with failure | found
  · exact congrArg Except.error (Failure.kind_quoting route' failure)
  · rfl

/-- **The target of a route depends on its leading segments, and not on their separators.** Routes
whose first three segments are the same lead to the same target; if the first one does not name a
module, two segments are enough; and the separators of any segment may be changed, unless it is the
first one and names a module before or after the change. -/
theorem target_leadingSegments (conv : Convention) (fs : FileSystem) (root path : Text) :
    (∀ route route', (segments route).take 3 = (segments route').take 3 →
        LeadAlike conv fs root path route route')
      ∧ (∀ route route', (segments route).take 2 = (segments route').take 2 →
        (∀ first ∈ (segments route).head?, fs.has (moduleDirectory conv root first) = false) →
        LeadAlike conv fs root path route route')
      ∧ ∀ route route' front id id' back, segments route = front ++ id :: back →
        segments route' = front ++ id' :: back → Relation.ReflTransGen Naming.Respelling id id' →
        (front = [] → fs.has (moduleDirectory conv root id) = false
          ∧ fs.has (moduleDirectory conv root id') = false) →
        LeadAlike conv fs root path route route'
          ∧ (target conv fs root path route').mapError Failure.kind
            = (target conv fs root path route).mapError Failure.kind := by
  refine ⟨fun route route' h => ?_, fun route route' h hmodule => ?_, ?_⟩
  · refine target_eq_of_essence ?_
    rw [query?_take_three, h, ← query?_take_three]
  · have hhead : (segments route).head? = (segments route').head? := by
      simpa [List.head?_take] using congrArg List.head? h
    refine target_eq_of_essence ?_
    rw [query?_take_two hmodule, h, ← query?_take_two (by rwa [← hhead])]
  · intro route route' front id id' back hroute hroute' hrespelled hmodule
    have halike : LeadAlike conv fs root path route route' := by
      refine target_eq_of_essence ?_
      rw [hroute, hroute']
      exact essence_respelled (Naming.words_eq_of_reflTransGen hrespelled) hmodule
    exact ⟨halike, halike.mapError_kind⟩

/-- A parameter behind the action is left out, its separators are changed, and slashes are put
between the segments and around them. -/
theorem target_leadingSegments_addItem :
    let file := "/ws/protected/controllers/PostController.php".toList
    let fs :=
      (Store.build [(file, "function actionAddItem() \x7b\x7d".toList)] []).fileSystem ['/']
    let found : ControllerAction := ⟨file, some "actionAddItem".toList⟩
    let path := "/ws/protected/views/a/b.php".toList
    target .stock fs "/ws".toList path "post/add_item/7".toList = .ok found
      ∧ target .stock fs "/ws".toList path "/post//-add--item/".toList = .ok found := by
  intro file fs found path
  have hfound : target .stock fs "/ws".toList path "post/add_item/7".toList = .ok found := by
    decide +kernel
  obtain ⟨hthree, htwo, hrespelled⟩ := target_leadingSegments .stock fs "/ws".toList path
  have hparameter : LeadAlike .stock fs "/ws".toList path "post/add_item/7".toList
      "post/add_item".toList := by
    refine htwo _ _ (by decide) fun first hfirst => ?_
    obtain rfl : "post".toList = first := Option.some.inj hfirst
    decide +kernel
  have hspelling : Relation.ReflTransGen Naming.Respelling "add_item".toList
      "-add--item".toList := by
    have hswap : Naming.Respelling "add_item".toList "add-item".toList :=
      .swap "add".toList "item".toList rfl rfl
    have hagain : Naming.Respelling "add-item".toList "add--item".toList :=
      .again "add".toList "item".toList rfl
    have hbefore : Naming.Respelling "add--item".toList "-add--item".toList :=
      .before "add--item".toList rfl
    exact ((Relation.ReflTransGen.single hswap).tail hagain).tail hbefore
  obtain ⟨haction, -⟩ := hrespelled "post/add_item".toList "post/-add--item".toList
    ["post".toList] _ _ [] (by decide) (by decide) hspelling nofun
  have hslashes : LeadAlike .stock fs "/ws".toList path "post/-add--item".toList
      "/post//-add--item/".toList := hthree _ _ (by decide)
  refine ⟨hfound, ?_⟩
  rw [hslashes, haction, hparameter, hfound]
  rfl

end Route
end YiiNavigator
