import Mathlib
import YiiNavigator.Proofs.Action.Catalog

/-!
# Nested actions

The bodies of two actions do not cross, as long as the search for the first body is in code when it
comes to the place where the search for the second one begins, or has ended by then
(`span_nested`). Only a header in a string or in a comment puts the two searches out of step.
-/

namespace YiiNavigator
namespace Action

/-- The offsets of the body of an action. A body without an end reaches to the end of the text. -/
def span (a : Action) (text : Text) : Set ℤ :=
  Set.Ico a.bodyStart (a.bodyEnd.getD text.length)

variable {conv : Convention} {text : Text} {a b : Action} {h h' : ℕ}

/-- An action with a body has the bounds of the body that is found behind its header. -/
lemma HasHeader.find_of_hasBody (ha : a.HasHeader conv text h) (hbody : a.hasBody = true) :
    ∃ start : ℕ, (Body.find text h).start? = some start ∧ h ≤ start ∧ a.bodyStart = start
      ∧ a.bodyEnd = (Body.find text h).stop?.map (fun stop : ℕ => (stop : ℤ))
      ∧ ∀ stop ∈ (Body.find text h).stop?, stop ≤ text.length := by
  obtain ⟨header, -, rfl, rfl⟩ := ha
  rcases ofHeader_cases text header with
    ⟨hfind, heq⟩ | ⟨start, hfind, heq⟩ | ⟨start, stop, hfind, heq⟩
  · rw [heq, hasBody] at hbody
    exact absurd (of_decide_eq_true hbody) (Int.lt_irrefl _)
  · have hle : header.stop ≤ start := Source.le_start_of_find (by rw [hfind]; rfl)
    rw [hfind, heq]
    exact ⟨start, rfl, hle, rfl, rfl, fun stop hstop => by cases hstop⟩
  · have hle : header.stop ≤ start := Source.le_start_of_find (by rw [hfind]; rfl)
    have hstop : stop ≤ text.length := Source.stop_le_of_find (by rw [hfind]; rfl)
    rw [hfind, heq]
    exact ⟨start, rfl, hle, rfl, rfl, fun stop' h => by cases h; exact hstop⟩

/-- The two searches in step find bodies one of which is before the other or encloses it. -/
lemma HasHeader.precedes_or_encloses (ha : a.HasHeader conv text h) (hb : b.HasHeader conv text h')
    (hbodyA : a.hasBody = true) (hbodyB : b.hasBody = true)
    (hstep : (∃ stop ∈ a.bodyEnd, stop ≤ h') ∨ Source.ReachesInCode text h h') :
    (Body.find text h).Precedes (Body.find text h')
      ∨ (Body.find text h).Encloses (Body.find text h') := by
  obtain ⟨start, hstart, -, -, hend, -⟩ := ha.find_of_hasBody hbodyA
  obtain ⟨start', hstart', hle, -⟩ := hb.find_of_hasBody hbodyB
  rcases hstep with ⟨stop, hstop, hbefore⟩ | hreach
  · rw [hend] at hstop
    obtain ⟨stop, hfound, rfl⟩ := Option.map_eq_some_iff.1 hstop
    exact .inl ⟨stop, hfound, start', hstart', by omega⟩
  · obtain ⟨header, hmem, -, rfl⟩ := hb
    refine Source.precedes_or_encloses (stop_le_length hmem) hreach (fun habsent => ?_)
      fun habsent => ?_
    · rw [habsent] at hstart
      cases hstart
    · rw [habsent] at hstart'
      cases hstart'

/-- **Bodies of actions do not cross.** Take two actions with bodies, the first of which has ended
where the header of the second one ends, or is there read in code. Their bodies have no offset in
common, or the second one lies within the first; and a body without an end that starts within
another one leaves that without an end, too. Which of the two is declared first does not matter. -/
theorem span_nested (ha : a.HasHeader conv text h) (hb : b.HasHeader conv text h')
    (hbodyA : a.hasBody = true) (hbodyB : b.hasBody = true)
    (hstep : (∃ stop ∈ a.bodyEnd, stop ≤ h') ∨ Source.ReachesInCode text h h') :
    (Disjoint (a.span text) (b.span text) ∨ b.span text ⊆ a.span text)
      ∧ (b.bodyEnd = none → b.bodyStart ∈ a.span text → a.bodyEnd = none) := by
  obtain ⟨start, hstart, -, hstartA, hendA, -⟩ := ha.find_of_hasBody hbodyA
  obtain ⟨start', hstart', -, hstartB, hendB, hlength⟩ := hb.find_of_hasBody hbodyB
  unfold span
  rw [hstartA, hstartB, hendA, hendB]
  rcases ha.precedes_or_encloses hb hbodyA hbodyB hstep with
    ⟨stop, hstop, s', hs', hbefore⟩ | ⟨⟨s, hs, s', hs', hle⟩, hends⟩
  · -- the first body has ended where the second one starts
    rw [hstart'] at hs'
    cases hs'
    rw [Option.mem_def.1 hstop]
    have hstop' : (stop : ℤ) ≤ start' := by omega
    refine ⟨.inl (Set.disjoint_left.2 fun i hi hi' => ?_), fun _ hin => ?_⟩
    · have hlt : i < stop := hi.2
      have hge : start' ≤ i := hi'.1
      omega
    · have hlt : (start' : ℤ) < stop := hin.2
      omega
  · rw [hstart] at hs
    rw [hstart'] at hs'
    cases hs
    cases hs'
    rcases hstop : (Body.find text h).stop? with - | stop
    · -- the first body reaches to the end of the text
      refine ⟨.inr (Set.Ico_subset_Ico (by omega) ?_), fun _ _ => rfl⟩
      rcases hstop' : (Body.find text h').stop? with - | stop'
      · exact Int.le_refl _
      · have := hlength stop' hstop'
        show (stop' : ℤ) ≤ text.length
        omega
    · obtain ⟨stop', hstop', hle'⟩ := hends stop hstop
      rw [Option.mem_def.1 hstop']
      refine ⟨.inr (Set.Ico_subset_Ico (by omega) ?_), fun hnone => by cases hnone⟩
      show (stop' : ℤ) ≤ stop
      omega

/-- An action declared in a block of another one, behind a brace in a comment. -/
theorem span_nested_block :
    let text :=
      "function actionA() \x7b if (x) \x7b //\x7d\nfunction actionB() \x7b\x7d \x7d \x7d".toList
    let a : Action := ⟨"actionA".toList, 0, 19, some 59, ⟨0, 0⟩⟩
    let b : Action := ⟨"actionB".toList, 34, 53, some 55, ⟨1, 0⟩⟩
    (a.HasHeader .stock text 17 ∧ b.HasHeader .stock text 51 ∧ a.hasBody = true
        ∧ b.hasBody = true ∧ Source.ReachesInCode text 17 51)
      ∧ (Disjoint (a.span text) (b.span text) ∨ b.span text ⊆ a.span text) := by
  intro text a b
  have ha : a.HasHeader .stock text 17 := by
    decide +kernel
  have hb : b.HasHeader .stock text 51 := by
    decide +kernel
  have hreach : Source.ReachesInCode text 17 51 := by
    decide +kernel
  exact ⟨⟨ha, hb, rfl, rfl, hreach⟩, (span_nested ha hb rfl rfl (.inr hreach)).1⟩

end Action
end YiiNavigator
