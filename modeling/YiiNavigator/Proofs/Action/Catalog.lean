import YiiNavigator.Proofs.Action.Header
import YiiNavigator.Proofs.Convention
import YiiNavigator.Proofs.Source.Nesting

/-!
# The catalog of actions

The catalog has a record for every declaration in a text and no others (`catalog_declarations`). The
offsets of a record are in order, so that it can be stored and read back, and they stand at the
parenthesis of the header and at the braces of the body (`catalog_isWellFormed`).
-/

namespace YiiNavigator
namespace Action

variable {conv : Convention} {text : Text} {a : Action} {header : Occurrence Text} {h : ℕ}

/-! ## Records and their headers -/

/-- Whether an action is recorded from a header of a text that ends at an offset. -/
def HasHeader (conv : Convention) (text : Text) (a : Action) (h : ℕ) : Prop :=
  ∃ header ∈ (headerReader conv.actionPrefix).occurrences text,
    a = ofHeader text header ∧ header.stop = h

instance (conv : Convention) (text : Text) (a : Action) (h : ℕ) :
    Decidable (HasHeader conv text a h) :=
  inferInstanceAs (Decidable (∃ header ∈ _, _))

/-- The three records of a header: without a body, with one that has no end, and with a whole
one. -/
lemma ofHeader_cases (text : Text) (header : Occurrence Text) :
    (Body.find text header.stop = .absent
        ∧ ofHeader text header = ⟨header.value, header.start, header.stop,
          some header.stop, text.positionAt header.start⟩)
      ∨ (∃ start, Body.find text header.stop = .unclosed start
        ∧ ofHeader text header = ⟨header.value, header.start, start, none,
          text.positionAt header.start⟩)
      ∨ ∃ start stop, Body.find text header.stop = .closed start stop
        ∧ ofHeader text header = ⟨header.value, header.start, start, some stop,
          text.positionAt header.start⟩ := by
  unfold ofHeader
  rcases hbody : Body.find text header.stop with - | start | ⟨start, stop⟩
  · exact .inl ⟨rfl, rfl⟩
  · exact .inr (.inl ⟨start, rfl, rfl⟩)
  · exact .inr (.inr ⟨start, stop, rfl, rfl⟩)

lemma name_ofHeader (text : Text) (header : Occurrence Text) :
    (ofHeader text header).name = header.value := by
  rcases ofHeader_cases text header with ⟨-, h⟩ | ⟨_, -, h⟩ | ⟨_, _, -, h⟩
  · rw [h]
  · rw [h]
  · rw [h]

lemma declaration_ofHeader (text : Text) (header : Occurrence Text) :
    (ofHeader text header).declaration = header.start := by
  rcases ofHeader_cases text header with ⟨-, h⟩ | ⟨_, -, h⟩ | ⟨_, _, -, h⟩
  · rw [h]
  · rw [h]
  · rw [h]

lemma position_ofHeader (text : Text) (header : Occurrence Text) :
    (ofHeader text header).position = text.positionAt header.start := by
  rcases ofHeader_cases text header with ⟨-, h⟩ | ⟨_, -, h⟩ | ⟨_, _, -, h⟩
  · rw [h]
  · rw [h]
  · rw [h]

/-- The reader of headers finds a header at each of its occurrences. -/
lemma isHeader_of_mem (hmem : header ∈ (headerReader conv.actionPrefix).occurrences text) :
    IsHeader conv.actionPrefix header.value header.length (text.drop header.start) := by
  obtain ⟨start, hstart, hread⟩ := Reader.read_of_mem_occurrencesFrom hmem
  rw [Nat.zero_add] at hstart
  rw [hstart]
  exact isHeader_of_headerReader hread

/-! ## Every declaration is listed -/

/-- The name of a header is the longest run of name characters behind the keyword and its blanks. -/
lemma IsHeader.name_eq {actionPrefix name : Text} {n : ℕ} (h : IsHeader actionPrefix name n text)
    (hchars : ∀ c ∈ actionPrefix, Text.isNameChar c = true) :
    name = ((text.drop "function".length).dropWhile Text.isBlank).takeWhile Text.isNameChar := by
  obtain ⟨haction, gap, gap', after, rfl, -, hgap, hgap', -⟩ := h
  have hblank := haction.head?_append hchars (gap' ++ '(' :: after)
  have hdrop : (gap ++ (name ++ (gap' ++ '(' :: after))).dropWhile Text.isBlank
      = name ++ (gap' ++ '(' :: after) := by
    have hsplit := List.takeWhile_append_dropWhile (p := Text.isBlank)
      (l := gap ++ (name ++ (gap' ++ '(' :: after)))
    rw [Text.takeWhile_append_of_head hgap hblank] at hsplit
    exact List.append_cancel_left hsplit
  show name = ((gap ++ (name ++ (gap' ++ '(' :: after))).dropWhile Text.isBlank).takeWhile _
  rw [hdrop, Text.takeWhile_append_of_head (haction.isNameChar hchars)
    (head?_append_parenthesis hgap')]

/-- **The catalog lists the declarations of a text.** Its records are declared at the offsets where
headers begin, one at each of them and in their order, and the name of a record is the longest run
of name characters behind the keyword and its blanks. -/
theorem catalog_declarations {conv : Convention}
    (hchars : ∀ c ∈ conv.actionPrefix, Text.isNameChar c = true) (text : Text) :
    (∀ d : ℤ, d ∈ (catalog conv text).map (·.declaration)
        ↔ ∃ k : ℕ, d = k ∧ ∃ name n, IsHeader conv.actionPrefix name n (text.drop k))
      ∧ ((catalog conv text).map (·.declaration)).Pairwise (· < ·)
      ∧ ∀ a ∈ catalog conv text, ∃ k : ℕ, a.declaration = k
        ∧ (∃ n, IsHeader conv.actionPrefix a.name n (text.drop k))
        ∧ a.name = ((text.drop (k + "function".length)).dropWhile Text.isBlank).takeWhile
          Text.isNameChar := by
  refine ⟨fun d => ?_, ?_, fun a ha => ?_⟩
  · rw [catalog, List.map_map, List.mem_map]
    constructor
    · rintro ⟨header, hmem, rfl⟩
      exact ⟨header.start, declaration_ofHeader text header, header.value, header.length,
        isHeader_of_mem hmem⟩
    · rintro ⟨k, rfl, name, n, hheader⟩
      exact ⟨⟨k, n, name⟩, (mem_headers_iff hchars).2 hheader, declaration_ofHeader text _⟩
  · rw [catalog, List.map_map, List.pairwise_map]
    -- a header is not empty, so that the next one begins behind the place where it begins
    refine (Reader.pairwise_occurrencesFrom _ 0 0 text).imp_of_mem fun {o o'} ho _ hstop => ?_
    obtain ⟨-, gap, gap', after, -, -, -, -, hlength⟩ := isHeader_of_mem ho
    rw [Function.comp_apply, Function.comp_apply, declaration_ofHeader, declaration_ofHeader]
    simp only [Occurrence.stop] at hstop
    omega
  · obtain ⟨header, hmem, rfl⟩ := List.mem_map.1 ha
    have hheader := isHeader_of_mem hmem
    have hname := hheader.name_eq hchars
    rw [List.drop_drop] at hname
    rw [name_ofHeader]
    exact ⟨header.start, declaration_ofHeader text header, ⟨header.length, hheader⟩, hname⟩

/-- The keyword may be glued to a word before it, and a name may hold the keyword. -/
theorem catalog_declarations_glued :
    let text := "xfunction actionGfunction\t(function actionB() \x7b\x7d".toList
    (∀ c ∈ Convention.stock.actionPrefix, Text.isNameChar c = true)
      ∧ (catalog .stock text).map (·.declaration) = [1, 27]
      ∧ ∃ name n, IsHeader Convention.stock.actionPrefix name n (text.drop 27) := by
  have hchars : ∀ c ∈ Convention.stock.actionPrefix, Text.isNameChar c = true :=
    List.all_eq_true.1 rfl
  have hdeclared : (catalog .stock
      "xfunction actionGfunction\t(function actionB() \x7b\x7d".toList).map (·.declaration)
        = [1, 27] := by
    decide +kernel
  refine ⟨hchars, hdeclared, ?_⟩
  obtain ⟨k, hk, hheader⟩ := ((catalog_declarations hchars _).1 27).1 (by rw [hdeclared]; simp)
  obtain rfl : k = 27 := by omega
  exact hheader

/-! ## Stored records -/

/-- The fields that an action is stored in. -/
def fields (a : Action) : List (Text × Value) :=
  [ ("name".toList, .text a.name),
    ("declaration_offset".toList, .integer a.declaration),
    ("body_start_offset".toList, .integer a.bodyStart),
    ("body_end_offset".toList, .integer a.endNumber),
    ("position".toList, .record [ ("row".toList, .integer a.position.row),
      ("column".toList, .integer a.position.column) ]) ]

/-- An action whose offsets are in order is read back from its fields, unless the number of its
end is taken for a missing end. -/
lemma ofRecord_fields (horder : a.disorder? = none) (hend : a.bodyEnd ≠ some unbounded) :
    ofRecord a.fields = .ok a := by
  have hnumber : endOfNumber a.endNumber = a.bodyEnd := by
    rcases hbody : a.bodyEnd with - | stop
    · rw [endNumber, hbody]
      rfl
    · rw [hbody] at hend
      rw [endNumber, hbody, Option.getD_some, endOfNumber, if_neg fun h => hend (by rw [h])]
  have hsame : ({ a with bodyEnd := endOfNumber a.endNumber } : Action) = a := by
    rw [hnumber]
  have hbind : ∀ {read : Checked Action} {check : Action → Checked Action},
      read = .ok a → (read >>= check) = check a := by
    rintro read check rfl
    rfl
  -- every field is read back, so that only the order of the offsets is left to check
  unfold ofRecord
  refine (hbind ?_).trans ?_
  · exact (rfl : _ = Except.ok _).trans (congrArg Except.ok hsame)
  · rw [horder]
    rfl

/-! ## Every record is well formed -/

/-- Whether the header of an action stands in a text and ends at `h`: it begins where the action is
declared, and its last character is the parenthesis behind the name. -/
structure IsDeclared (actionPrefix text : Text) (a : Action) (h : ℕ) : Prop where
  header : ∃ d : ℕ, a.declaration = d ∧ d ≤ h ∧ IsHeader actionPrefix a.name (h - d) (text.drop d)
  parenthesis : text[h - 1]? = some '('
  name_lt : a.declaration + "function".length + a.name.length < h
  position : a.position = text.positionAt a.declaration

/-- Whether the offsets of an action stand where they should in a text, `h` being the end of its
header, and the action can be stored. -/
structure IsWellFormed (actionPrefix text : Text) (a : Action) (h : ℕ) : Prop
    extends IsDeclared actionPrefix text a h where
  stored : ofRecord a.fields = .ok a
  header_le : h ≤ a.bodyStart
  start_le : a.bodyStart ≤ text.length
  opening : a.hasBody = true → text[a.bodyStart.toNat]? = some '{'
  closing : a.hasBody = true → ∀ stop ∈ a.bodyEnd, stop ≤ text.length
    ∧ text[stop.toNat - 1]? = some '}' ∧ a.bodyStart + 2 ≤ stop
  bodyless : a.hasBody = false → a.bodyStart = h ∧ a.bodyEnd = some (h : ℤ) ∧ a.body text = []
    ∧ ∀ offset, a.covers offset = false
  covers_iff : a.hasBody = true → ∀ offset, a.covers offset = true
    ↔ a.bodyStart ≤ offset ∧ ∀ stop ∈ a.bodyEnd, offset ≤ stop

lemma covers_of_not_hasBody (hbody : a.hasBody = false) (offset : ℤ) :
    a.covers offset = false := by
  rw [covers, hbody, Bool.false_and, Bool.false_and]

lemma covers_iff_of_hasBody (hbody : a.hasBody = true) (offset : ℤ) :
    a.covers offset = true ↔ a.bodyStart ≤ offset ∧ ∀ stop ∈ a.bodyEnd, offset ≤ stop := by
  rw [covers, hbody, Bool.true_and, Bool.and_eq_true, decide_eq_true_eq]
  rcases a.bodyEnd with - | stop
  · simp
  · simp

/-- A header is longer than its keyword and its name together, and ends with a parenthesis. -/
lemma IsHeader.bounds {actionPrefix name : Text} {n : ℕ} (h : IsHeader actionPrefix name n text) :
    "function".length + name.length < n ∧ n ≤ text.length ∧ text[n - 1]? = some '(' := by
  obtain ⟨-, gap, gap', after, rfl, -, -, -, rfl⟩ := h
  have hsplit : "function".toList ++ (gap ++ (name ++ (gap' ++ '(' :: after)))
      = ("function".toList ++ gap ++ name ++ gap') ++ '(' :: after := by
    simp
  have hlength : ("function".toList ++ gap ++ name ++ gap').length
      = "function".length + gap.length + name.length + gap'.length := by
    rw [List.length_append, List.length_append, List.length_append]
    rfl
  refine ⟨by omega, ?_, ?_⟩
  · rw [hsplit, List.length_append, List.length_cons, hlength]
    omega
  · rw [hsplit, Nat.add_sub_cancel, ← hlength, List.getElem?_append_right (Nat.le_refl _),
      Nat.sub_self]
    rfl

/-- A body that ends where it starts has no characters. -/
lemma body_eq_nil {start : ℕ} (hstart : a.bodyStart = start) (hend : a.bodyEnd = some (start : ℤ)) :
    a.body text = [] := by
  rw [body, hstart, hend, Option.getD_some, Text.slice]
  exact List.drop_eq_nil_of_le (List.length_take_le _ _)

/-- The body of a record is missing, and its offsets are the end of the header then, or it starts at
an opening brace behind the header and, if it ends, ends behind a closing brace. -/
lemma body_ofHeader (text : Text) (header : Occurrence Text) :
    ((ofHeader text header).hasBody = false ∧ (ofHeader text header).bodyStart = header.stop
        ∧ (ofHeader text header).bodyEnd = some (header.stop : ℤ))
      ∨ ((ofHeader text header).hasBody = true ∧ ∃ start : ℕ,
        (ofHeader text header).bodyStart = start ∧ header.stop ≤ start
        ∧ Source.isAt text '{' start = true
        ∧ ∀ stop ∈ (ofHeader text header).bodyEnd, ∃ i : ℕ, stop = i + 1 ∧ start < i
          ∧ Source.isAt text '}' i = true) := by
  rcases ofHeader_cases text header with
    ⟨-, h⟩ | ⟨start, hfind, h⟩ | ⟨start, stop, hfind, h⟩
  · refine .inl ⟨?_, by rw [h], by rw [h]⟩
    rw [h, hasBody]
    exact decide_eq_false (Int.lt_irrefl _)
  · rcases Source.find_cases text header.stop with
      habsent | ⟨start', hle, hopen, hunclosed | ⟨i, -, -, hclosed⟩⟩
    · rw [habsent] at hfind
      cases hfind
    · rw [hunclosed] at hfind
      cases hfind
      refine .inr ⟨by rw [h, hasBody], start, by rw [h], hle, hopen, fun stop hstop => ?_⟩
      rw [h] at hstop
      cases hstop
    · rw [hclosed] at hfind
      cases hfind
  · rcases Source.find_cases text header.stop with
      habsent | ⟨start', hle, hopen, hunclosed | ⟨i, hlt, hclose, hclosed⟩⟩
    · rw [habsent] at hfind
      cases hfind
    · rw [hunclosed] at hfind
      cases hfind
    · rw [hclosed] at hfind
      cases hfind
      refine .inr ⟨?_, start, by rw [h], hle, hopen, fun stop hstop => ?_⟩
      · rw [h]
        show decide ((start : ℤ) < ((i + 1 : ℕ) : ℤ)) = true
        exact decide_eq_true (by omega)
      · rw [h] at hstop
        cases hstop
        exact ⟨i, rfl, hlt, hclose⟩

/-- The offsets of a record are in order, and the end of its body is no negative number. -/
lemma ofRecord_fields_ofHeader (text : Text) (header : Occurrence Text) :
    ofRecord (ofHeader text header).fields = .ok (ofHeader text header) := by
  have hdeclaration := declaration_ofHeader text header
  have hstop : header.start ≤ header.stop := Nat.le_add_right _ _
  rcases body_ofHeader text header with ⟨-, hstart, hend⟩ | ⟨-, start, hstart, hle, -, hends⟩
  · refine ofRecord_fields ?_ ?_
    · rw [disorder?, hdeclaration, hstart, hend, if_neg (by omega)]
      exact if_neg (Int.lt_irrefl _)
    · rw [hend, unbounded, Ne, Option.some.injEq]
      omega
  · refine ofRecord_fields ?_ ?_
    · rw [disorder?, hdeclaration, hstart, if_neg (by omega)]
      rcases hend : (ofHeader text header).bodyEnd with - | stop
      · rfl
      · obtain ⟨i, rfl, hlt, -⟩ := hends stop hend
        exact if_neg (by omega)
    · intro hend
      obtain ⟨i, hi, -⟩ := hends _ hend
      rw [unbounded] at hi
      omega

lemma stop_le_length (hmem : header ∈ (headerReader conv.actionPrefix).occurrences text) :
    header.stop ≤ text.length := by
  obtain ⟨hname, hlength, -⟩ := (isHeader_of_mem hmem).bounds
  rw [List.length_drop] at hlength
  show header.start + header.length ≤ text.length
  omega

lemma isDeclared_ofHeader (hmem : header ∈ (headerReader conv.actionPrefix).occurrences text) :
    IsDeclared conv.actionPrefix text (ofHeader text header) header.stop := by
  have hheader := isHeader_of_mem hmem
  obtain ⟨hname, -, hparenthesis⟩ := hheader.bounds
  have hstop : header.stop = header.start + header.length := rfl
  have hdeclaration := declaration_ofHeader text header
  refine ⟨⟨header.start, hdeclaration, by omega, ?_⟩, ?_, ?_, ?_⟩
  · rw [name_ofHeader, hstop, Nat.add_sub_cancel_left]
    exact hheader
  · rw [List.getElem?_drop] at hparenthesis
    rw [hstop, Nat.add_sub_assoc (by omega)]
    exact hparenthesis
  · rw [hdeclaration, name_ofHeader, hstop]
    omega
  · rw [position_ofHeader, hdeclaration]

/-- **Every record of the catalog is well formed.** Its header lies before its body and both lie in
the text, between the parenthesis and the braces that they should; and the record can be stored. -/
theorem catalog_isWellFormed (conv : Convention) (text : Text) :
    ∀ a ∈ catalog conv text, ∃ h, IsWellFormed conv.actionPrefix text a h := by
  intro a ha
  obtain ⟨header, hmem, rfl⟩ := List.mem_map.1 ha
  have hdeclared := isDeclared_ofHeader hmem
  have hstored := ofRecord_fields_ofHeader text header
  have hstop := stop_le_length hmem
  refine ⟨header.stop, ?_⟩
  rcases body_ofHeader text header with
    ⟨hbody, hstart, hend⟩ | ⟨hbody, start, hstart, hle, hopen, hends⟩
  · have hnone : ¬(ofHeader text header).hasBody = true := by
      rw [hbody]
      exact Bool.false_ne_true
    exact
      { hdeclared with
        stored := hstored
        header_le := by omega
        start_le := by omega
        opening := fun h => absurd h hnone
        closing := fun h => absurd h hnone
        bodyless := fun h =>
          ⟨hstart, hend, body_eq_nil hstart hend, covers_of_not_hasBody h⟩
        covers_iff := covers_iff_of_hasBody }
  · have hlt := Source.lt_length_of_isAt hopen
    have hclosing : ∀ stop ∈ (ofHeader text header).bodyEnd, stop ≤ text.length
        ∧ text[stop.toNat - 1]? = some '}' ∧ (ofHeader text header).bodyStart + 2 ≤ stop := by
      intro stop hend
      obtain ⟨i, rfl, hlt, hclose⟩ := hends stop hend
      have := Source.lt_length_of_isAt hclose
      refine ⟨by omega, ?_, by omega⟩
      rw [show ((i : ℤ) + 1).toNat - 1 = i by omega]
      exact beq_iff_eq.1 hclose
    have hsome : ¬(ofHeader text header).hasBody = false := by
      simp [hbody]
    exact
      { hdeclared with
        stored := hstored
        header_le := by omega
        start_le := by omega
        opening := fun _ => by
          rw [hstart, Int.toNat_natCast]
          exact beq_iff_eq.1 hopen
        closing := fun _ => hclosing
        bodyless := fun h => absurd h hsome
        covers_iff := covers_iff_of_hasBody }

/-- Behind an action without a body, the record of one whose body has no end. -/
theorem catalog_isWellFormed_unclosed :
    let text := "abstract function actionA ();\nfunction actionB() \x7b".toList
    let a : Action := ⟨"actionB".toList, 30, 49, none, ⟨1, 0⟩⟩
    a ∈ catalog .stock text
      ∧ ∃ h, IsWellFormed Convention.stock.actionPrefix text a h := by
  have hmem : (⟨"actionB".toList, 30, 49, none, ⟨1, 0⟩⟩ : Action)
      ∈ catalog .stock "abstract function actionA ();\nfunction actionB() \x7b".toList := by
    decide +kernel
  exact ⟨hmem, catalog_isWellFormed .stock _ _ hmem⟩

end Action
end YiiNavigator
