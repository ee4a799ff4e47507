import YiiNavigator.Proofs.Action.Catalog
import YiiNavigator.Proofs.Source.Locality
import YiiNavigator.Proofs.Text.Position

/-!
# The catalog of a text that goes on

When a text is written further at its end, the actions that it declares stay in the catalog, in the
same order and with the same names and places, and those whose bodies have ended stay as they are
(`catalog_append`).
-/

namespace YiiNavigator
namespace Action

variable {conv : Convention} {text : Text} {header : Occurrence Text}

/-- The record of a header with a whole body does not depend on what comes behind the text. -/
lemma ofHeader_append (hstop : header.stop ≤ text.length)
    (hbounded : (ofHeader text header).isBounded = true)
    (hbody : (ofHeader text header).hasBody = true) (after : Text) :
    ofHeader (text ++ after) header = ofHeader text header := by
  have hstart : header.start ≤ text.length := Nat.le_trans (Nat.le_add_right _ _) hstop
  rcases ofHeader_cases text header with ⟨-, h⟩ | ⟨start, -, h⟩ | ⟨start, stop, hfind, h⟩
  · -- without a body, the record ends where it starts
    rw [h, hasBody] at hbody
    exact absurd (of_decide_eq_true hbody) (Int.lt_irrefl _)
  · rw [h] at hbounded
    cases hbounded
  · rw [h, ofHeader, Body.find_append hfind, Text.positionAt_append hstart]

/-- **Appended text disturbs no action.** The catalog of a text that goes on has at least the
records of the text: each keeps its number, its name, the offset where it is declared and the
position of that offset; and a record whose body has ended keeps everything. -/
theorem catalog_append {conv : Convention}
    (hchars : ∀ c ∈ conv.actionPrefix, Text.isNameChar c = true) (text after : Text) :
    (catalog conv text).length ≤ (catalog conv (text ++ after)).length
      ∧ ∀ (k : ℕ) (a : Action), (catalog conv text)[k]? = some a →
        ∃ a', (catalog conv (text ++ after))[k]? = some a' ∧ a'.name = a.name
          ∧ a'.declaration = a.declaration ∧ a'.position = a.position
          ∧ (a.isBounded = true → a.hasBody = true → a' = a) := by
  -- the headers of the text are the first ones of the longer text
  obtain ⟨later, hlater⟩ := (accepts_headerReader hchars).occurrences_append
    (isApart_headerReader hchars) text after
  constructor
  · rw [catalog, catalog, List.length_map, List.length_map, ← hlater, List.length_append]
    exact Nat.le_add_right _ _
  · intro k a ha
    rw [catalog, List.getElem?_map] at ha
    obtain ⟨header, hheader, rfl⟩ := Option.map_eq_some_iff.1 ha
    have hstop : header.stop ≤ text.length := stop_le_length (List.mem_of_getElem? hheader)
    have hstart : header.start ≤ text.length := Nat.le_trans (Nat.le_add_right _ _) hstop
    refine ⟨ofHeader (text ++ after) header, ?_, ?_, ?_, ?_, ?_⟩
    · have hk := (List.getElem?_eq_some_iff.1 hheader).1
      rw [catalog, List.getElem?_map, ← hlater, List.getElem?_append_left hk, hheader]
      rfl
    · rw [name_ofHeader, name_ofHeader]
    · rw [declaration_ofHeader, declaration_ofHeader]
    · rw [position_ofHeader, position_ofHeader, Text.positionAt_append hstart]
    · intro hbounded hbody
      exact ofHeader_append hstop hbounded hbody after

/-- The header of a third action is cut off at the end of the text, in the body of the second. -/
theorem catalog_append_cut :
    let text : Text := "function actionA() \x7b\x7d\nfunction actionB() \x7b function action".toList
    let after : Text := "C(); \x7d".toList
    let a : Action := ⟨"actionA".toList, 0, 19, some 21, ⟨0, 0⟩⟩
    (∀ c ∈ Convention.stock.actionPrefix, Text.isNameChar c = true)
      ∧ (catalog .stock text)[0]? = some a ∧ a.isBounded = true ∧ a.hasBody = true
      ∧ (catalog .stock (text ++ after))[0]? = some a
      ∧ (catalog .stock text).map (·.bodyEnd) = [some 21, none]
      ∧ (catalog .stock (text ++ after)).map (·.bodyEnd) = [some 21, some 64, some 60] := by
  intro text after a
  have hchars : ∀ c ∈ Convention.stock.actionPrefix, Text.isNameChar c = true :=
    List.all_eq_true.1 rfl
  have ha : (catalog .stock text)[0]? = some a := by
    decide +kernel
  have hends : (catalog .stock (text ++ after)).map (·.bodyEnd) = [some 21, some 64, some 60] := by
    decide +kernel
  obtain ⟨a', ha', -, -, -, hsame⟩ := (catalog_append hchars text after).2 0 a ha
  rw [hsame rfl rfl] at ha'
  exact ⟨hchars, ha, rfl, rfl, ha', by decide +kernel, hends⟩

end Action
end YiiNavigator
