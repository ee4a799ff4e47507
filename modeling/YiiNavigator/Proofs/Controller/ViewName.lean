import Mathlib.Data.List.SplitBy
import YiiNavigator.Controller.Lookup
import YiiNavigator.Proofs.Action.Header
import YiiNavigator.Proofs.Controller.Naming
import YiiNavigator.Proofs.Convention
import YiiNavigator.Proofs.Route.Respelling
import YiiNavigator.Proofs.Text.Case

/-!
# Views named like actions

The name of an action joins words with capitals, and that of a view joins them with underscores. An
underscore before each capital but the first character joins the humps of a name
(`separated_eq_joined`), and the humps of a class name are the words of its id
(`joined_humps_className`). So the two ways to join words undo each other.
-/

namespace YiiNavigator
namespace Naming

variable {conv : Convention} {c : Char} {word name rest first view : Text}
  {parts pieces : List Text}

/-! ## Joining by underscores -/

/-- The parts with an underscore between each two of them. -/
def joined (parts : List Text) : Text :=
  ['_'].intercalate parts

lemma joined_cons (first : Text) (parts : List Text) :
    joined (first :: parts) = first ++ parts.flatMap ('_' :: ·) := by
  unfold joined
  induction parts generalizing first with
  | nil => rw [List.intercalate_singleton, List.flatMap_nil, List.append_nil]
  | cons second parts ih =>
    rw [List.intercalate_cons_cons, ih, List.append_assoc]
    rfl

lemma map_toLower_joined (parts : List Text) :
    (joined parts).map Char.toLower = joined (parts.map (·.map Char.toLower)) := by
  rcases parts with - | ⟨first, parts⟩
  · rfl
  · rw [List.map_cons, joined_cons, joined_cons, List.map_append, List.map_flatMap,
      List.flatMap_map]
    rfl

/-! ## Humps -/

/-- The pieces of a name: every capital begins a new one. -/
def humps (name : Text) : List Text :=
  name.splitBy fun _ c => !Text.isCapital c

/-- Whether a text goes on without capitals behind its first character. -/
def IsHump (piece : Text) : Prop :=
  ∃ c rest, piece = c :: rest ∧ ∀ d ∈ rest, Text.isCapital d = false

/-- Whether a text begins with a capital. -/
def BeginsCapital (piece : Text) : Prop :=
  piece.head?.any Text.isCapital = true

lemma markCapitals_append (a b : Text) :
    markCapitals (a ++ b) = markCapitals a ++ markCapitals b :=
  List.flatMap_append

lemma markCapitals_cons (c : Char) (rest : Text) :
    markCapitals (c :: rest)
      = (if Text.isCapital c then ['_', c] else [c]) ++ markCapitals rest :=
  List.flatMap_cons

lemma markCapitals_of_small (h : ∀ d ∈ rest, Text.isCapital d = false) :
    markCapitals rest = rest := by
  induction rest with
  | nil => rfl
  | cons c rest ih =>
    obtain ⟨hc, hrest⟩ := List.forall_mem_cons.1 h
    rw [markCapitals_cons, hc, ih hrest]
    rfl

lemma IsHump.markCapitals_eq (h : IsHump first) (hcapital : BeginsCapital first) :
    markCapitals first = '_' :: first := by
  obtain ⟨c, rest, rfl, hrest⟩ := h
  have hc : Text.isCapital c = true := hcapital
  rw [markCapitals_cons, hc, markCapitals_of_small hrest]
  rfl

lemma markCapitals_flatten (h : ∀ piece ∈ pieces, IsHump piece ∧ BeginsCapital piece) :
    markCapitals pieces.flatten = pieces.flatMap ('_' :: ·) := by
  induction pieces with
  | nil => rfl
  | cons first pieces ih =>
    obtain ⟨⟨hhump, hcapital⟩, hpieces⟩ := List.forall_mem_cons.1 h
    rw [List.flatten_cons, markCapitals_append, hhump.markCapitals_eq hcapital, ih hpieces]
    rfl

/-- A name of humps is separated between them. -/
lemma separated_flatten (hfirst : IsHump first)
    (h : ∀ piece ∈ pieces, IsHump piece ∧ BeginsCapital piece) :
    separated (first :: pieces).flatten = joined (first :: pieces) := by
  obtain ⟨c, rest, rfl, hrest⟩ := hfirst
  rw [joined_cons, ← markCapitals_flatten h, List.flatten_cons]
  show c :: markCapitals (rest ++ pieces.flatten) = _
  rw [markCapitals_append, markCapitals_of_small hrest]
  rfl

/-- What a chain says of the second of two neighbours alone holds of all but the first. -/
lemma forall_mem_of_isChain {α : Type} {P : α → Prop} {a : α} {l : List α}
    (h : (a :: l).IsChain fun _ b => P b) : ∀ b ∈ l, P b := by
  induction l generalizing a with
  | nil => exact nofun
  | cons b l ih =>
    obtain ⟨hb, hl⟩ := List.isChain_cons_cons.1 h
    exact List.forall_mem_cons.2 ⟨hb, ih hl⟩

lemma isHump_of_mem_humps (h : first ∈ humps name) : IsHump first := by
  obtain ⟨c, rest, rfl⟩ := List.exists_cons_of_ne_nil (List.ne_nil_of_mem_splitBy h)
  refine ⟨c, rest, rfl, forall_mem_of_isChain (a := c) ?_⟩
  exact (List.isChain_of_mem_splitBy h).imp fun _ d hd => by simpa using hd

lemma beginsCapital_of_humps (h : humps name = first :: pieces) :
    ∀ piece ∈ pieces, BeginsCapital piece := by
  have hchain : (humps name).IsChain fun _ piece => BeginsCapital piece := by
    -- what the split says of the last character of a piece does not matter
    refine (List.isChain_getLast_head_splitBy _ name).imp ?_
    rintro above piece ⟨-, hpiece, hcapital⟩
    obtain ⟨c, rest, rfl⟩ := List.exists_cons_of_ne_nil hpiece
    show Text.isCapital c = true
    simpa using hcapital
  rw [h] at hchain
  exact forall_mem_of_isChain hchain

/-- An underscore before each capital but the first character joins the humps of the name. -/
lemma separated_eq_joined (name : Text) : separated name = joined (humps name) := by
  rcases hname : humps name with - | ⟨first, pieces⟩
  · rw [List.splitBy_eq_nil.1 hname]
    rfl
  · have hflatten : name = (first :: pieces).flatten := by
      rw [← hname]
      exact (List.flatten_splitBy _ name).symm
    have hhump : ∀ piece ∈ first :: pieces, IsHump piece := fun piece hpiece =>
      isHump_of_mem_humps (hname ▸ hpiece)
    rw [hflatten]
    exact separated_flatten (hhump first List.mem_cons_self) fun piece hpiece =>
      ⟨hhump piece (List.mem_cons_of_mem first hpiece), beginsCapital_of_humps hname piece hpiece⟩

/-! ## Matches -/

lemma withoutPrefix_append (conv : Convention) (name : Text) :
    withoutPrefix conv (conv.actionPrefix ++ name) = name := by
  have hbegins : conv.actionPrefix.isPrefixOf (conv.actionPrefix ++ name) = true :=
    List.isPrefixOf_iff_prefix.2 (List.prefix_append _ _)
  rw [withoutPrefix, if_pos hbegins, List.drop_left]

lemma isAscii_separated (h : Text.IsAscii name) : Text.IsAscii (separated name) := by
  rcases name with - | ⟨c, rest⟩
  · exact h
  · obtain ⟨hc, hrest⟩ := List.forall_mem_cons.1 h
    refine List.forall_mem_cons.2 ⟨hc, List.forall_mem_flatMap.2 fun d hd => ?_⟩
    have hd' := hrest d hd
    split
    · exact List.forall_mem_cons.2 ⟨by decide, List.forall_mem_singleton.2 hd'⟩
    · exact List.forall_mem_singleton.2 hd'

/-- A view belongs to an action by name when it is the rest of the action's name, or the humps of
that joined by underscores, but for the case of letters. -/
lemma matchesView_append_iff (conv : Convention) (hname : Text.IsAscii name)
    (hview : Text.IsAscii view) :
    matchesView conv (conv.actionPrefix ++ name) view = true
      ↔ view.map Char.toLower = name.map Char.toLower
        ∨ view.map Char.toLower = (joined (humps name)).map Char.toLower := by
  unfold matchesView
  dsimp only
  rw [withoutPrefix_append, Bool.or_eq_true, beq_iff_eq, beq_iff_eq, Text.lower_of_isAscii hname,
    Text.lower_of_isAscii hview, Text.lower_of_isAscii (isAscii_separated hname),
    separated_eq_joined]
  exact or_congr eq_comm eq_comm

/-! ## Words -/

/-- Whether a text is a small letter with small letters and digits behind it. -/
def isWord : Text → Bool
  | c :: rest => c.isLower && rest.all fun d => d.isLower || d.isDigit
  | [] => false

lemma exists_of_isWord (h : isWord word = true) :
    ∃ c rest, word = c :: rest ∧ c.isLower = true
      ∧ ∀ d ∈ rest, (d.isLower || d.isDigit) = true := by
  unfold isWord at h
  split at h
  · obtain ⟨hc, hrest⟩ := Bool.and_eq_true_iff.1 h
    exact ⟨_, _, rfl, hc, List.all_eq_true.1 hrest⟩
  · cases h

lemma isAlphanum_of_mem_word (h : isWord word = true) (hc : c ∈ word) : c.isAlphanum = true := by
  obtain ⟨first, rest, rfl, hfirst, hrest⟩ := exists_of_isWord h
  have hclass : (c.isLower || c.isDigit) = true := by
    rcases List.mem_cons.1 hc with rfl | hc
    · rw [hfirst, Bool.true_or]
    · exact hrest c hc
  rw [Char.isAlphanum, Char.isAlpha, Bool.or_assoc, hclass, Bool.or_true]

lemma isAscii_of_isWord (h : isWord word = true) : Text.IsAscii word := by
  intro c hc
  have hclasses : ((c.isUpper || c.isLower) || c.isDigit) = true := isAlphanum_of_mem_word h hc
  have htoNat : c.toNat = c.val.toNat := rfl
  have hupper : ('Z'.val).toNat = 90 := rfl
  have hlower : ('z'.val).toNat = 122 := rfl
  have hdigit : ('9'.val).toNat = 57 := rfl
  simp only [Bool.or_eq_true, Text.isUpper_iff, Text.isLower_iff, Text.isDigit_iff,
    UInt32.le_iff_toNat_le] at hclasses
  omega

lemma words_joined (hne : parts ≠ []) (h : ∀ part ∈ parts, isWord part = true) :
    words (joined parts) = parts := by
  induction parts with
  | nil => exact absurd rfl hne
  | cons first parts ih =>
    obtain ⟨hfirst, hparts⟩ := List.forall_mem_cons.1 h
    have hword : words first = [first] := by
      apply words_eq_singleton
      · rintro rfl
        cases hfirst
      · exact fun c hc => isSeparator_of_isAlphanum (isAlphanum_of_mem_word hfirst hc)
    rcases parts with - | ⟨second, parts⟩
    · rw [joined, List.intercalate_singleton, hword]
    · -- the underscore ends the first word, which has no separators of its own
      rw [joined, List.intercalate_cons_cons, List.append_assoc, List.singleton_append,
        words_append_cons _ _ rfl, hword]
      exact congrArg (first :: ·) (ih (List.cons_ne_nil _ _) hparts)

lemma isUpper_of_small (h : (c.isLower || c.isDigit) = true) : c.isUpper = false := by
  rw [← Bool.not_eq_true]
  intro hupper
  have hfirst : ('a'.val).toNat = 97 := rfl
  have hlast : ('Z'.val).toNat = 90 := rfl
  have hdigit : ('9'.val).toNat = 57 := rfl
  have hcapital : ('A'.val).toNat = 65 := rfl
  simp only [Bool.or_eq_true, Text.isUpper_iff, Text.isLower_iff, Text.isDigit_iff,
    UInt32.le_iff_toNat_le] at h hupper
  omega

/-- A word with a capital at its front. -/
lemma exists_upperFirst (h : isWord word = true) :
    ∃ c rest, word = c :: rest ∧ Text.upperFirst word = c.toUpper :: rest ∧ c.isAlpha = true
      ∧ ∀ d ∈ rest, (d.isLower || d.isDigit) = true := by
  obtain ⟨c, rest, rfl, hc, hrest⟩ := exists_of_isWord h
  have halpha : c.isAlpha = true := by
    rw [Char.isAlpha, hc, Bool.or_true]
  exact ⟨c, rest, rfl, Text.upperFirst_cons halpha, halpha, hrest⟩

lemma isHump_upperFirst (h : isWord word = true) :
    IsHump (Text.upperFirst word) ∧ BeginsCapital (Text.upperFirst word) := by
  obtain ⟨c, rest, -, hupper, halpha, hrest⟩ := exists_upperFirst h
  rw [hupper]
  constructor
  · refine ⟨_, rest, rfl, fun d hd => ?_⟩
    rw [Text.isCapital_eq_isUpper, isUpper_of_small (hrest d hd)]
  · show Text.isCapital c.toUpper = true
    rw [Text.isCapital_eq_isUpper, Char.isUpper_toUpper_eq_isAlpha, halpha]

lemma isAscii_upperFirst (h : isWord word = true) : Text.IsAscii (Text.upperFirst word) := by
  have hword := isAscii_of_isWord h
  obtain ⟨c, rest, rfl, hupper, halpha, -⟩ := exists_upperFirst h
  rw [hupper]
  refine List.forall_mem_cons.2 ⟨Text.toNat_lt_of_isAlpha ?_, (List.forall_mem_cons.1 hword).2⟩
  rw [Char.isAlpha_toUpper_eq_isAlpha, halpha]

lemma map_toLower_upperFirst (h : isWord word = true) :
    (Text.upperFirst word).map Char.toLower = word.map Char.toLower := by
  obtain ⟨c, rest, rfl, hupper, -, -⟩ := exists_upperFirst h
  rw [hupper, List.map_cons, List.map_cons, Char.toLower_toUpper_eq_toLower]

/-! ## Class names -/

lemma className_joined (hne : parts ≠ []) (h : ∀ part ∈ parts, isWord part = true) :
    className (joined parts) = (parts.map Text.upperFirst).flatten := by
  unfold className
  rw [words_joined hne h, List.flatMap_def]

/-- The humps of the class name of a view are its words. -/
lemma joined_humps_className (hne : parts ≠ []) (h : ∀ part ∈ parts, isWord part = true) :
    joined (humps (className (joined parts))) = joined (parts.map Text.upperFirst) := by
  obtain ⟨first, parts, rfl⟩ := List.exists_cons_of_ne_nil hne
  obtain ⟨hfirst, hparts⟩ := List.forall_mem_cons.1 h
  rw [← separated_eq_joined, className_joined hne h, List.map_cons]
  exact separated_flatten (isHump_upperFirst hfirst).1
    (List.forall_mem_map.2 fun part hpart => isHump_upperFirst (hparts part hpart))

lemma isAscii_joined (h : ∀ part ∈ parts, Text.IsAscii part) : Text.IsAscii (joined parts) := by
  rcases parts with - | ⟨first, parts⟩
  · exact nofun
  · obtain ⟨hfirst, hparts⟩ := List.forall_mem_cons.1 h
    rw [joined_cons]
    refine List.forall_mem_append.2 ⟨hfirst, List.forall_mem_flatMap.2 fun part hpart => ?_⟩
    exact List.forall_mem_cons.2 ⟨by decide, hparts part hpart⟩

lemma isAscii_className (hne : parts ≠ []) (h : ∀ part ∈ parts, isWord part = true) :
    Text.IsAscii (className (joined parts)) := by
  rw [className_joined hne h]
  intro c hc
  obtain ⟨_, hpiece, hc⟩ := List.mem_flatten.1 hc
  obtain ⟨part, hpart, rfl⟩ := List.mem_map.1 hpiece
  exact isAscii_upperFirst (h part hpart) c hc

lemma matchesView_className (conv : Convention) (hne : parts ≠ [])
    (h : ∀ part ∈ parts, isWord part = true) :
    matchesView conv (conv.actionPrefix ++ className (joined parts)) (joined parts) = true := by
  have hview : Text.IsAscii (joined parts) := isAscii_joined fun part hpart =>
    isAscii_of_isWord (h part hpart)
  refine (matchesView_append_iff conv (isAscii_className hne h) hview).2 (.inr ?_)
  rw [joined_humps_className hne h, map_toLower_joined, map_toLower_joined, List.map_map]
  exact congrArg joined (List.map_congr_left fun part hpart =>
    (map_toLower_upperFirst (h part hpart)).symm)

end Naming

namespace Controller

variable {conv : Convention} {text view name : Text}

/-- A view that an action of the text is named like has an action. -/
lemma exists_actionForView_of_matches (hname : name ∈ (Action.catalog conv text).map (·.name))
    (hmatch : Naming.matchesView conv name view = true) :
    ∃ action ∈ Action.catalog conv text, actionForView? conv text view = some action.name
      ∧ (renders text view action = true ∨ Naming.matchesView conv action.name view = true) := by
  obtain ⟨named, hmem, rfl⟩ := List.mem_map.1 hname
  unfold actionForView?
  dsimp only
  rcases hrender : (Action.catalog conv text).find? (renders text view) with - | action
  · let likeView (action : Action) : Bool := Naming.matchesView conv action.name view
    have hsome : ((Action.catalog conv text).find? likeView).isSome = true :=
      List.find?_isSome.2 ⟨named, hmem, hmatch⟩
    obtain ⟨action, haction⟩ := Option.isSome_iff_exists.1 hsome
    have hlike : likeView action = true := List.find?_some haction
    exact ⟨action, List.mem_of_find?_eq_some haction, congrArg (Option.map (·.name)) haction,
      .inr hlike⟩
  · exact ⟨action, List.mem_of_find?_eq_some hrender, rfl, .inl (List.find?_some hrender)⟩

end Controller

namespace Naming

/-- A view named by words belongs to the action whose name joins them with capitals. In general, a
view belongs to an action by name when it is the rest of the action's name, or the humps of that
joined by underscores, but for the case of letters. -/
theorem matchesView_joinedWords (conv : Convention) :
    (∀ parts : List Text, parts ≠ [] → (∀ part ∈ parts, isWord part = true) →
        let view := joined parts
        let name := conv.actionPrefix ++ className view
        matchesView conv name view = true
          ∧ ∀ text, name ∈ (Action.catalog conv text).map (·.name) →
            ∃ action ∈ Action.catalog conv text,
              Controller.actionForView? conv text view = some action.name
                ∧ (Controller.renders text view action = true
                  ∨ matchesView conv action.name view = true))
      ∧ ∀ name view : Text, Text.IsAscii name → Text.IsAscii view →
        (matchesView conv (conv.actionPrefix ++ name) view = true
          ↔ view.map Char.toLower = name.map Char.toLower
            ∨ view.map Char.toLower = (joined (humps name)).map Char.toLower) := by
  refine ⟨fun parts hne h => ?_, fun name view => matchesView_append_iff conv⟩
  have hmatch := matchesView_className conv hne h
  exact ⟨hmatch, fun text hname => Controller.exists_actionForView_of_matches hname hmatch⟩

/-- Two words with a digit in one, and a name with several capitals on end. -/
theorem matchesView_joinedWords_showInfo2 :
    let parts := ["show".toList, "info2".toList]
    let text := "function actionShowInfo2() \x7b \x7d".toList
    matchesView .stock "actionShowInfo2".toList (joined parts) = true
      ∧ (Controller.actionForView? .stock text (joined parts)).isSome = true
      ∧ matchesView .stock "actionShowALL".toList "SHOW_a_l_l".toList = true := by
  intro parts text
  obtain ⟨hwords, hnames⟩ := matchesView_joinedWords .stock
  have hname : Convention.stock.actionPrefix ++ className (joined parts)
      = "actionShowInfo2".toList := by
    decide
  obtain ⟨hmatch, hfound⟩ := hwords parts (List.cons_ne_nil _ _) (by decide)
  rw [hname] at hmatch hfound
  obtain ⟨action, -, haction, -⟩ := hfound text (by decide +kernel)
  refine ⟨hmatch, ?_, ?_⟩
  · rw [haction]
    rfl
  · refine (hnames "ShowALL".toList "SHOW_a_l_l".toList ?_ ?_).2 (.inr ?_)
    · decide +kernel
    · decide +kernel
    · decide

end Naming
end YiiNavigator
