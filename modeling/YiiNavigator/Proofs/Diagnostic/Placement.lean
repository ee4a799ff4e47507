import YiiNavigator.FileSystem.Store
import YiiNavigator.Proofs.Convention
import YiiNavigator.Proofs.Diagnostic.Order
import YiiNavigator.Proofs.Source.ArrayKeys
import YiiNavigator.Proofs.Text.Position

/-!
# Diagnostics stand at their literals

Diagnostics give positions, and their offsets come from three scans: of render calls in the body of
an action, of imports in the whole text, and of the keys of an array. In each case the positions
lead back to a literal between its quotes, which is the one that the diagnostic is about.
-/

namespace YiiNavigator

/-! ## Literals of the three scans -/

lemma RenderCall.reader_endsInLiteral : Reader.EndsInLiteral reader (·.2) := by
  refine .bind fun _ => .bind fun _ => .bind fun isPartial => .bind fun _ => .bind fun _ => ?_
  exact .bind_pure Reader.literal_endsInLiteral

lemma RenderCall.quotedAt_of_mem_all {text : Text} {base : ℤ} {call : RenderCall}
    (h : call ∈ RenderCall.all text base) :
    ∃ n : ℕ, call.nameOffset = base + n ∧ QuotedAt text n call.target.name := by
  obtain ⟨o, ho, rfl⟩ := List.mem_map.1 h
  exact ⟨_, rfl, Reader.quotedAt_of_mem_occurrences reader_endsInLiteral ho⟩

lemma Import.callReader_endsInLiteral : Reader.EndsInLiteral callReader id :=
  .bind fun _ => .bind fun _ => .bind fun _ => .bind fun _ => .bind fun _ =>
    Reader.literal_endsInLiteral

lemma Import.quotedAt_of_mem_literals {text : Text} {l : Literal} (h : l ∈ literals text) :
    QuotedAt text l.offset l.name := by
  obtain ⟨o, ho, rfl⟩ := List.mem_map.1 h
  exact Reader.quotedAt_of_mem_occurrences callReader_endsInLiteral ho

namespace Action

variable {conv : Convention} {text : Text}

/-- The body of a declared action starts at some character. -/
lemma bodyStart_of_mem_catalog {action : Action} (h : action ∈ catalog conv text) :
    ∃ n : ℕ, action.bodyStart = n := by
  obtain ⟨header, -, rfl⟩ := List.mem_map.1 h
  unfold ofHeader
  dsimp only
  split
  · exact ⟨_, rfl⟩
  · exact ⟨_, rfl⟩
  · exact ⟨_, rfl⟩

/-- The calls in the body of an action stand in the whole text at the offsets that they tell. -/
lemma quotedAt_of_mem_renderCalls {action : Action} (h : action ∈ catalog conv text)
    {call : RenderCall} (hcall : call ∈ action.renderCalls text) :
    ∃ n : ℕ, call.nameOffset = n ∧ QuotedAt text n call.target.name := by
  obtain ⟨start, hstart⟩ := bodyStart_of_mem_catalog h
  obtain ⟨n, hn, hquoted⟩ := RenderCall.quotedAt_of_mem_all hcall
  rw [body, hstart] at hquoted
  exact ⟨start + n, by rw [hn, hstart]; rfl, hquoted.of_slice⟩

lemma quotedAt_of_mem_mapKeys {key : Literal} (h : key ∈ mapKeys text) :
    QuotedAt text key.offset key.name := by
  unfold mapKeys at h
  split at h
  · cases h
  · split at h
    · split at h
      · cases h
      · exact Source.quotedAt_of_mem_arrayKeys h
    · cases h

end Action

namespace Diagnostic

variable {conv : Convention} {fs : FileSystem} {root path text : Text}

lemma quotedAt_of_mem_checkedCalls {call : RenderCall}
    (h : call ∈ checkedCalls conv root path text) :
    ∃ n : ℕ, call.nameOffset = n ∧ QuotedAt text n call.target.name := by
  unfold checkedCalls at h
  split at h
  · obtain ⟨n, hn, hquoted⟩ := RenderCall.quotedAt_of_mem_all h
    exact ⟨n, by omega, hquoted⟩
  · obtain ⟨action, haction, hcall⟩ := List.mem_flatMap.1 h
    exact Action.quotedAt_of_mem_renderCalls haction hcall

/-! ## From a diagnostic to its literal -/

/-- What a diagnostic is about: a literal at an offset, taken from the scan that its problem belongs
to. A problem of a view is the one that the target of its call has. -/
def IsAbout (conv : Convention) (fs : FileSystem) (root path text : Text) (problem : Problem)
    (literal : Literal) : Prop :=
  match problem with
  | .importMissing dotted => literal ∈ Import.literals text ∧ dotted = literal.name
  | .importRepeated dotted _ => literal ∈ Import.literals text ∧ dotted = literal.name
  | .methodMissing method =>
    literal ∈ Action.mapKeys text ∧ method = Naming.methodName conv literal.name
  | problem => ∃ roots, ViewRoots.of? conv root path = some roots
    ∧ ∃ call ∈ checkedCalls conv root path text, call.nameOffset = literal.offset
      ∧ call.target.name = literal.name
      ∧ viewProblem? conv fs roots root call.target = some problem

/-- A problem that is found with the target of a call is about the name of that call. -/
lemma isAbout_of_viewProblem? {roots : ViewRoots} {call : RenderCall} {n : ℕ} {problem : Problem}
    (hroots : ViewRoots.of? conv root path = some roots)
    (hcall : call ∈ checkedCalls conv root path text) (hn : call.nameOffset = n)
    (hproblem : viewProblem? conv fs roots root call.target = some problem) :
    IsAbout conv fs root path text problem ⟨call.target.name, n⟩ := by
  have habout : ∃ roots, ViewRoots.of? conv root path = some roots
      ∧ ∃ call' ∈ checkedCalls conv root path text, call'.nameOffset = n
        ∧ call'.target.name = call.target.name
        ∧ viewProblem? conv fs roots root call'.target = some problem :=
    ⟨roots, hroots, call, hcall, hn, rfl, hproblem⟩
  unfold viewProblem? at hproblem
  split at hproblem
  · cases hproblem
    exact habout
  · dsimp only at hproblem
    split at hproblem
    · cases hproblem
    · split at hproblem
      · cases hproblem
        exact habout
      · split at hproblem
        · cases hproblem
          exact habout
        · cases hproblem
          exact habout

/-- A diagnostic is that of a literal between quotes. -/
lemma exists_literal_of_mem {d : Diagnostic} (h : d ∈ ofDocument conv fs root path text) :
    ∃ literal : Literal, QuotedAt text literal.offset literal.name
      ∧ d = ofName text literal.offset literal.name d.problem
      ∧ IsAbout conv fs root path text d.problem literal := by
  rcases mem_ofDocument.1 h with hview | himport | hkey
  · unfold ofViews at hview
    rcases hroots : ViewRoots.of? conv root path with - | roots
    · rw [hroots] at hview
      cases hview
    · simp only [hroots, List.mem_filterMap, Option.map_eq_some_iff] at hview
      obtain ⟨call, hcall, problem, hproblem, rfl⟩ := hview
      obtain ⟨n, hn, hquoted⟩ := quotedAt_of_mem_checkedCalls hcall
      exact ⟨⟨call.target.name, n⟩, hquoted, by rw [hn]; rfl,
        isAbout_of_viewProblem? hroots hcall hn hproblem⟩
  · rcases List.mem_append.1 himport with hmissing | hrepeated
    · obtain ⟨l, hl, rfl⟩ := List.mem_map.1 hmissing
      have hmem := (List.mem_filter.1 hl).1
      exact ⟨l, Import.quotedAt_of_mem_literals hmem, rfl, hmem, rfl⟩
    · obtain ⟨l, hl, rfl⟩ := List.mem_map.1 hrepeated
      have hmem := (List.mem_filter.1 hl).1
      exact ⟨l, Import.quotedAt_of_mem_literals hmem, rfl, hmem, rfl⟩
  · unfold delegated at hkey
    split at hkey
    · obtain ⟨key, hmem, rfl⟩ := List.mem_map.1 hkey
      have hmem := (List.mem_filter.1 hmem).1
      exact ⟨key, Action.quotedAt_of_mem_mapKeys hmem, rfl, hmem, rfl⟩
    · cases hkey

/-- The positions of a diagnostic lead back to offsets with equal quotes just before the first and
at the second, and the text between them is the literal that the diagnostic is about. -/
theorem ofDocument_pointsAtLiteral {d : Diagnostic} (h : d ∈ ofDocument conv fs root path text) :
    let start := text.offsetAt d.start
    let stop := text.offsetAt d.stop
    1 ≤ start ∧ start ≤ stop ∧ stop < text.length
      ∧ (∃ mark, Reader.isQuote mark = true
        ∧ text[start - 1]? = some mark ∧ text[stop]? = some mark)
      ∧ IsAbout conv fs root path text d.problem ⟨(text.take stop).drop start, start⟩ := by
  obtain ⟨⟨name, offset⟩, hquoted, hd, habout⟩ := exists_literal_of_mem h
  obtain ⟨hfront, hstop, hmarks, hname⟩ := hquoted.bounds
  dsimp only at hfront hstop hmarks hname hd habout
  have hstart : text.offsetAt d.start = offset := by
    rw [hd]
    show text.offsetAt (text.positionAt offset) = offset
    rw [Text.offsetAt_positionAt, Text.clamp_natCast (by omega)]
  have hend : text.offsetAt d.stop = offset + name.length := by
    rw [hd]
    show text.offsetAt (text.positionAt ((offset : ℤ) + name.length)) = _
    rw [Text.offsetAt_positionAt, ← Int.natCast_add, Text.clamp_natCast (by omega)]
  rw [hstart, hend]
  dsimp only
  rw [hname]
  exact ⟨hfront, by omega, hstop, hmarks, habout⟩

/-- In a store without files, the partial view of an action is missing, at its name. -/
theorem ofDocument_pointsAtLiteral_partial :
    let path := "/w/protected/controllers/SiteController.php".toList
    let text := "<?php\nfunction actionIndex() \x7b\n $this->renderPartial(\"x\");\n\x7d".toList
    let problem := Problem.partMissing "protected/views/site/_x.php".toList
      "protected/views/site/x.php".toList
    ⟨problem, ⟨2, 23⟩, ⟨2, 24⟩⟩
        ∈ ofDocument .stock (Store.empty.fileSystem ['/']) "/w".toList path text
      ∧ IsAbout .stock (Store.empty.fileSystem ['/']) "/w".toList path text problem
        ⟨"x".toList, 54⟩ := by
  intro path text problem
  have hview : ⟨problem, ⟨2, 23⟩, ⟨2, 24⟩⟩
      ∈ ofViews .stock (Store.empty.fileSystem ['/']) "/w".toList path text := by
    decide +kernel
  have hmem : ⟨problem, ⟨2, 23⟩, ⟨2, 24⟩⟩
      ∈ ofDocument .stock (Store.empty.fileSystem ['/']) "/w".toList path text :=
    mem_ofDocument.2 (.inl hview)
  obtain ⟨-, -, -, -, habout⟩ := ofDocument_pointsAtLiteral hmem
  have hstart : Text.offsetAt text ⟨2, 23⟩ = 54 := by
    decide +kernel
  have hstop : Text.offsetAt text ⟨2, 24⟩ = 55 := by
    decide +kernel
  rw [hstart, hstop] at habout
  exact ⟨hmem, habout⟩

end Diagnostic
end YiiNavigator
