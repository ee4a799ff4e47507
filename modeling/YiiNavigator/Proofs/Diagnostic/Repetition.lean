import YiiNavigator.Proofs.Diagnostic.Placement

/-!
# Diagnostics of one place

One scan finds a render call once. The calls of a controller are found in one scan for each of its
actions, so a call is found again for every action whose body covers it, and no more often.
-/

namespace YiiNavigator

/-! ## Calls of one scan -/

/-- The calls that are found in a text have names at different offsets. -/
lemma RenderCall.nodup_nameOffset_all (text : Text) (base : ℤ) :
    ((RenderCall.all text base).map (·.nameOffset)).Nodup := by
  have hpairwise := Reader.pairwise_occurrences reader_endsInLiteral text
  unfold RenderCall.all List.Nodup
  rw [List.map_map, List.pairwise_map]
  -- the base moves all names alike, so that they stay apart
  refine hpairwise.imp fun {o o'} hlt heq => ?_
  simp only [Function.comp_apply, ofOccurrence] at heq
  omega

/-- At most one call that is found in a text has its name at a given offset. -/
lemma RenderCall.countP_all_le_one (text : Text) (base offset : ℤ) :
    (RenderCall.all text base).countP (·.nameOffset == offset) ≤ 1 := by
  have hcount := List.nodup_iff_count_le_one.1 (nodup_nameOffset_all text base) offset
  rwa [List.count, List.countP_map] at hcount

/-! ## Calls of several scans -/

namespace Action

variable {conv : Convention} {text : Text} {action : Action} {call : RenderCall}

/-- The body of a declared action, if it has an end, ends at some character. -/
lemma bodyEnd_of_mem_catalog (h : action ∈ catalog conv text) :
    ∀ stop ∈ action.bodyEnd, ∃ n : ℕ, stop = n := by
  obtain ⟨header, -, rfl⟩ := List.mem_map.1 h
  unfold ofHeader
  dsimp only
  split
  · rintro stop ⟨⟩
    exact ⟨_, rfl⟩
  · rintro stop ⟨⟩
  · rintro stop ⟨⟩
    exact ⟨_, rfl⟩

/-- The body of an action covers the names of the calls that are found in it. -/
lemma covers_of_mem_renderCalls (h : action ∈ catalog conv text)
    (hcall : call ∈ action.renderCalls text) : action.covers call.nameOffset = true := by
  obtain ⟨start, hstart⟩ := bodyStart_of_mem_catalog h
  obtain ⟨n, hn, hquoted⟩ := RenderCall.quotedAt_of_mem_all hcall
  obtain ⟨-, hlength, -⟩ := hquoted.bounds
  have hends := bodyEnd_of_mem_catalog h
  unfold body at hlength
  unfold covers hasBody
  rcases hend : action.bodyEnd with - | stop
  · -- a body without an end covers all that comes after its start
    simp only [hn, Bool.and_true, Bool.true_and, decide_eq_true_eq]
    omega
  · -- the name lies within the body, which is no longer than its bounds allow
    obtain ⟨stop, rfl⟩ := hends stop (by rw [hend]; rfl)
    rw [hend, Option.getD_some, hstart, Text.slice, Text.bound_natCast, Text.bound_natCast,
      List.length_drop, List.length_take] at hlength
    simp only [hn, hstart, Bool.and_eq_true, decide_eq_true_eq]
    omega

/-- For one action, a call is found at most once, and only if the body covers it. -/
lemma countP_renderCalls_le (h : action ∈ catalog conv text) (offset : ℤ) :
    (action.renderCalls text).countP (·.nameOffset == offset)
      ≤ if action.covers offset then 1 else 0 := by
  split
  · exact RenderCall.countP_all_le_one _ _ _
  · rename_i hcovers
    rw [Nat.le_zero, List.countP_eq_zero]
    intro call hcall heq
    have := covers_of_mem_renderCalls h hcall
    rw [beq_iff_eq.1 heq] at this
    exact hcovers this

/-- For all actions of a text together, a call is found at most once for each body that covers
it. -/
lemma countP_flatMap_renderCalls_le (conv : Convention) (text : Text) (offset : ℤ) :
    ((catalog conv text).flatMap (·.renderCalls text)).countP (·.nameOffset == offset)
      ≤ (catalog conv text).countP (·.covers offset) := by
  have hactions : ∀ actions : List Action, (∀ action ∈ actions, action ∈ catalog conv text) →
      (actions.flatMap (·.renderCalls text)).countP (·.nameOffset == offset)
        ≤ actions.countP (·.covers offset) := by
    intro actions hdeclared
    induction actions with
    | nil => exact Nat.le_refl _
    | cons action rest ih =>
      obtain ⟨haction, hrest⟩ := List.forall_mem_cons.1 hdeclared
      rw [List.flatMap_cons, List.countP_append, List.countP_cons, Nat.add_comm]
      exact Nat.add_le_add (ih hrest) (countP_renderCalls_le haction offset)
  exact hactions _ fun _ h => h

end Action

/-! ## Diagnostics -/

namespace Diagnostic

variable {conv : Convention} {root path text : Text}

/-- How often a document may be told of one offset: once in a view file, and else once for each
action whose body covers it. -/
def timesCovered (conv : Convention) (root path text : Text) (offset : ℤ) : ℕ :=
  if Project.isView conv (some root) path then 1
  else (Action.catalog conv text).countP (·.covers offset)

lemma countP_checkedCalls_le (conv : Convention) (root path text : Text) (offset : ℤ) :
    (checkedCalls conv root path text).countP (·.nameOffset == offset)
      ≤ timesCovered conv root path text offset := by
  unfold checkedCalls timesCovered
  split
  · exact RenderCall.countP_all_le_one _ _ _
  · exact Action.countP_flatMap_renderCalls_le conv text offset

/-- The position of the name of a call leads back to it. -/
lemma nameOffset_eq_offsetAt {call : RenderCall} (h : call ∈ checkedCalls conv root path text) :
    call.nameOffset = text.offsetAt (text.positionAt call.nameOffset) := by
  obtain ⟨n, hn, hquoted⟩ := quotedAt_of_mem_checkedCalls h
  obtain ⟨-, hstop, -⟩ := hquoted.bounds
  rw [hn, Text.offsetAt_positionAt, Text.clamp_natCast (by omega)]

/-- **A view name is reported once, or once for each body that covers it.** The diagnostics of the
views of a document that start at one position are at most one in a view file, and in a controller
no more than the actions whose bodies cover the position; a position without such bodies has
none. -/
theorem countP_ofViews_le (conv : Convention) (fs : FileSystem) (root path text : Text)
    (start : Position) :
    (ofViews conv fs root path text).countP (·.start == start)
      ≤ timesCovered conv root path text (text.offsetAt start) := by
  unfold ofViews
  rcases ViewRoots.of? conv root path with - | roots
  · exact Nat.zero_le _
  · refine Nat.le_trans ?_ (countP_checkedCalls_le conv root path text (text.offsetAt start))
    -- a diagnostic that starts at the position comes from a call whose name is there
    rw [List.countP_filterMap]
    refine List.countP_mono_left fun call hcall hfound => ?_
    rw [beq_iff_eq, nameOffset_eq_offsetAt hcall]
    rcases hproblem : viewProblem? conv fs roots root call.target with - | problem
    · rw [hproblem] at hfound
      cases hfound
    · rw [hproblem] at hfound
      rw [← eq_of_beq hfound]
      rfl

/-- The header of an action that is commented out takes the body of the action behind it, and a view
that is missing there is reported twice. -/
theorem ofViews_commentedOut :
    let path := "/ws/protected/controllers/PostController.php".toList
    let text := ("<?php\n// public function actionOld()\n".toList
      ++ "public function actionIndex() \x7b\n  $this->render('missing');\n\x7d\n".toList)
    let d : Diagnostic :=
      ⟨.viewMissing "protected/views/post/missing.php".toList, ⟨3, 17⟩, ⟨3, 24⟩⟩
    ofViews .stock (Store.empty.fileSystem ['/']) "/ws".toList path text = [d, d]
      ∧ timesCovered .stock "/ws".toList path text (Text.offsetAt text d.start) = 2 := by
  decide +kernel

end Diagnostic

end YiiNavigator
