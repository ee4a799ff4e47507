import YiiNavigator.Proofs.Text.Literal
import YiiNavigator.View.RenderCall

/-!
# Which calls render a view

A call that renders a view is an arrow or a double colon, one of two methods, an opening
parenthesis and a name between two equal quotes; blanks may stand before the method, before the
parenthesis and before the name (`IsRenderCall`). The reader of calls accepts exactly these, so
that every call of a text is listed unless it begins inside of a listed one (`all_listsCalls`).
-/

namespace YiiNavigator
namespace RenderCall

open Reader

/-! ## The shape of a call -/

/-- The method that renders a view, or a part of one. -/
def method (isPartial : Bool) : Text :=
  if isPartial then "renderPartial".toList else "render".toList

/-- Whether a text is a call that renders a view, `before` characters of it standing in front of
the name. -/
def IsRenderCall (isPartial : Bool) (name : Text) (before : ℕ) (span : Text) : Prop :=
  ∃ access gap gap' gap'' mark front,
    span = front ++ name ++ [mark] ∧ before = front.length
    ∧ front = access ++ gap ++ method isPartial ++ gap' ++ ['('] ++ gap'' ++ [mark]
    ∧ (access = "->".toList ∨ access = "::".toList)
    ∧ (∀ c ∈ gap ++ (gap' ++ gap''), Text.isBlank c = true)
    ∧ (mark = '\x27' ∨ mark = '\x22') ∧ name ≠ [] ∧ '\x27' ∉ name ∧ '\x22' ∉ name

/-- Whether a call stands in a text from one offset up to another one, with its name between. -/
def StandsAt (text : Text) (start nameStart stop : ℕ) (isPartial : Bool) (name : Text) : Prop :=
  ∃ span before, span <+: text.drop start ∧ IsRenderCall isPartial name before span
    ∧ nameStart = start + before ∧ stop = start + span.length

/-- The offset just after a call. -/
def stop (call : RenderCall) : ℤ :=
  call.nameOffset + call.target.name.length + 1

variable {text name : Text} {isPartial : Bool} {before : ℕ}

/-! ## The reader of calls -/

lemma forall_isQuote_iff : (∀ c ∈ name, isQuote c = false) ↔ '\x27' ∉ name ∧ '\x22' ∉ name := by
  constructor
  · intro h
    exact ⟨fun hc => absurd (h _ hc) (by decide), fun hc => absurd (h _ hc) (by decide)⟩
  · intro h c hc
    rw [← Bool.not_eq_true, isQuote_iff]
    intro hquote
    rcases hquote with rfl | rfl
    · exact h.1 hc
    · exact h.2 hc

lemma accepts_accessReader :
    Accepts accessReader fun _ front => front = "->".toList ∨ front = "::".toList := by
  apply (accepts_word _).orElse (accepts_word _)
  intro a front rest hfront
  subst hfront
  rfl

/-- Whether a text is the argument of a call: an opening parenthesis and a name in quotes, with
blanks before each of them. -/
def IsArgument (name part : Text) : Prop :=
  ∃ gap gap' mark, part = gap ++ ['('] ++ gap' ++ [mark] ++ name ++ [mark]
    ∧ (∀ c ∈ gap ++ gap', Text.isBlank c = true)
    ∧ (mark = '\x27' ∨ mark = '\x22') ∧ name ≠ [] ∧ '\x27' ∉ name ∧ '\x22' ∉ name

lemma accepts_argument (isPartial : Bool) : Accepts (do
      Reader.token "(".toList
      let _ ← Reader.blanks
      let name ← Reader.literal
      return (isPartial, name) : Reader (Bool × Text))
    fun call part => call.1 = isPartial ∧ IsArgument call.2 part := by
  -- from the literal at the end to the front, one reader after the other
  have hname := accepts_literal.bind fun name => accepts_pure (isPartial, name)
  have hblanks := hname.blanks_bind (by
    intro call front rest hfront c hc
    obtain ⟨name, first, second, rfl, ⟨mark, rfl, hquote, -⟩, -⟩ := hfront
    obtain rfl : mark = c := Option.some.inj hc
    rcases isQuote_iff.1 hquote with rfl | rfl
    · decide
    · decide)
  have htoken := accepts_token (c := '(') (w := []) (by decide)
  apply (htoken.bind fun _ => hblanks).congr
  intro call part
  constructor
  · intro h
    obtain ⟨-, _, _, rfl, ⟨gap, _, rfl, hgap, rfl⟩, gap', _, rfl, hgap', name, _, _, rfl,
      ⟨mark, rfl, hquote, hne, hname⟩, rfl, rfl⟩ := h
    exact ⟨rfl, gap, gap', mark, by simp, List.forall_mem_append.2 ⟨hgap, hgap'⟩,
      isQuote_iff.1 hquote, hne, forall_isQuote_iff.1 hname⟩
  · intro h
    obtain ⟨hpartial, gap, gap', mark, rfl, hgaps, hquote, hne, hname⟩ := h
    obtain ⟨hgap, hgap'⟩ := List.forall_mem_append.1 hgaps
    refine ⟨(), gap ++ ['('], gap' ++ (mark :: (call.2 ++ [mark]) ++ []), by simp,
      ⟨gap, ['('], rfl, hgap, rfl⟩, gap', _, rfl, hgap', call.2, _, [], rfl, ?_, ?_, rfl⟩
    · exact ⟨mark, rfl, isQuote_iff.2 hquote, hne, forall_isQuote_iff.2 hname⟩
    · rw [← hpartial]

/-- What comes behind the name of a method does not go on with it. -/
lemma IsArgument.not_partial_append {part : Text} (h : IsArgument name part) (rest : Text) :
    ¬"Partial".toList <+: part ++ rest := by
  obtain ⟨gap, gap', mark, rfl, hgaps, -⟩ := h
  have hgap := (List.forall_mem_append.1 hgaps).1
  intro hprefix
  obtain ⟨tail, htail⟩ := hprefix
  rcases gap with - | ⟨c, gap⟩
  · cases htail
  · obtain rfl : 'P' = c := (List.cons.inj htail).1
    exact absurd (hgap 'P' List.mem_cons_self) (by decide)

/-- The reader of calls accepts a call, and nothing of what comes behind it. -/
lemma accepts_reader :
    Accepts reader fun call span => ∃ before, IsRenderCall call.1 call.2 before span := by
  have hpartial := Accepts.optional_bind (w := "Partial".toList) accepts_argument
    (fun call part rest h => h.2.not_partial_append rest)
  have htoken := accepts_token (c := 'r') (w := "ender".toList) (by decide)
  apply (accepts_accessReader.bind fun _ => htoken.bind fun _ => hpartial).congr
  intro call span
  constructor
  · intro h
    obtain ⟨-, access, _, rfl, haccess, -, _, _, rfl, ⟨gap, _, rfl, hgap, rfl⟩, hargument⟩ := h
    obtain ⟨isPartial, name⟩ := call
    obtain ⟨_, rfl, rfl, hargument⟩ | ⟨rfl, hargument⟩ := hargument
    · obtain ⟨gap', gap'', mark, rfl, hgaps, hmark, hname⟩ := hargument
      exact ⟨_, access, gap, gap', gap'', mark, _, by simp [method], rfl, rfl, haccess,
        List.forall_mem_append.2 ⟨hgap, hgaps⟩, hmark, hname⟩
    · obtain ⟨gap', gap'', mark, rfl, hgaps, hmark, hname⟩ := hargument
      exact ⟨_, access, gap, gap', gap'', mark, _, by simp [method], rfl, rfl, haccess,
        List.forall_mem_append.2 ⟨hgap, hgaps⟩, hmark, hname⟩
  · intro h
    obtain ⟨isPartial, name⟩ := call
    obtain ⟨before, access, gap, gap', gap'', mark, front, rfl, -, rfl, haccess, hblanks, hmark,
      hname⟩ := h
    obtain ⟨hgap, hgaps⟩ := List.forall_mem_append.1 hblanks
    have hargument : IsArgument name (gap' ++ ['('] ++ gap'' ++ [mark] ++ name ++ [mark]) :=
      ⟨gap', gap'', mark, rfl, hgaps, hmark, hname⟩
    rcases isPartial with - | -
    · exact ⟨(), access, gap ++ "render".toList ++ _, by simp [method], haccess, (),
        gap ++ "render".toList, _, rfl, ⟨gap, _, rfl, hgap, rfl⟩, Or.inr ⟨rfl, hargument⟩⟩
    · exact ⟨(), access, gap ++ "render".toList ++ ("Partial".toList ++ _), by simp [method],
        haccess, (), gap ++ "render".toList, _, rfl, ⟨gap, _, rfl, hgap, rfl⟩,
        Or.inl ⟨_, rfl, rfl, hargument⟩⟩

/-! ## The calls of a text -/

variable {span : Text} {start nameStart stop n : ℕ}

lemma IsRenderCall.length_eq (h : IsRenderCall isPartial name before span) :
    span.length = before + name.length + 1 := by
  obtain ⟨access, gap, gap', gap'', mark, front, rfl, rfl, -⟩ := h
  rw [List.length_append, List.length_append, List.length_singleton]

/-- Where a call stands, the reader accepts it. -/
lemma StandsAt.read (h : StandsAt text start nameStart stop isPartial name) :
    reader (text.drop start) = some ((isPartial, name), stop - start)
      ∧ nameStart + name.length + 1 = stop ∧ start ≤ nameStart := by
  obtain ⟨span, before, ⟨rest, hrest⟩, hcall, rfl, rfl⟩ := h
  have hlength := hcall.length_eq
  refine ⟨?_, by omega, by omega⟩
  apply (accepts_reader _ _ _).2
  exact ⟨span, rest, hrest.symm, ⟨before, hcall⟩, Nat.add_sub_cancel_left _ _⟩

/-- Where the reader accepts, a call stands. -/
lemma exists_standsAt (h : reader (text.drop start) = some ((isPartial, name), n)) :
    ∃ nameStart, StandsAt text start nameStart (start + n) isPartial name := by
  obtain ⟨span, rest, htext, ⟨before, hcall⟩, rfl⟩ := (accepts_reader _ _ _).1 h
  exact ⟨start + before, span, before, ⟨rest, htext.symm⟩, hcall, rfl, rfl⟩

/-- A call is recorded with its own offset and that of its name. -/
lemma StandsAt.ofOccurrence_eq (h : StandsAt text start nameStart stop isPartial name)
    (base : ℤ) :
    ofOccurrence base ⟨start, stop - start, (isPartial, name)⟩
      = ⟨⟨name, .ofName name, isPartial⟩, base + start, base + nameStart⟩ := by
  obtain ⟨-, hstop, hstart⟩ := h.read
  have hname : start + (stop - start) - 1 - name.length = nameStart := by
    omega
  show (⟨_, _, base + ((start + (stop - start) - 1 - name.length : ℕ) : ℤ)⟩ : RenderCall) = _
  rw [hname]
  rfl

/-- Each occurrence of the reader is a call, and it is recorded as such. -/
lemma exists_standsAt_of_mem {o : Occurrence (Bool × Text)} (h : o ∈ reader.occurrences text) :
    ∃ nameStart, StandsAt text o.start nameStart o.stop o.value.1 o.value.2
      ∧ ∀ base : ℤ, ofOccurrence base o
        = ⟨⟨o.value.2, .ofName o.value.2, o.value.1⟩, base + o.start, base + nameStart⟩ := by
  obtain ⟨start, hstart, hread⟩ := read_of_mem_occurrencesFrom h
  rw [Nat.zero_add] at hstart
  rw [← hstart] at hread
  obtain ⟨nameStart, hstands⟩ := exists_standsAt hread
  refine ⟨nameStart, hstands, fun base => ?_⟩
  have hrecord := hstands.ofOccurrence_eq base
  rwa [Nat.add_sub_cancel_left] at hrecord

/-- **The calls that render a view are listed.** Every listed call stands in the text, and its
record tells the method, the name with its spelling, and the offsets of both from the base; the
calls are listed in their order and do not overlap; and every call of the text is listed, unless it
begins inside of an earlier one that is. -/
theorem all_listsCalls (text : Text) (base : ℤ) :
    (∀ call ∈ all text base, ∃ start nameStart stop isPartial name,
        StandsAt text start nameStart stop isPartial name
        ∧ call = ⟨⟨name, .ofName name, isPartial⟩, base + start, base + nameStart⟩
        ∧ call.stop = base + stop)
      ∧ (all text base).Pairwise
        (fun call call' => call.offset < call'.offset ∧ call.stop ≤ call'.offset)
      ∧ ∀ start nameStart stop isPartial name,
        StandsAt text start nameStart stop isPartial name →
        ⟨⟨name, .ofName name, isPartial⟩, base + start, base + nameStart⟩ ∈ all text base
        ∨ ∃ earlier ∈ all text base,
          earlier.offset < base + start ∧ base + start < earlier.stop := by
  -- the record of an occurrence has its bounds, moved by the base
  have hbounds : ∀ o ∈ reader.occurrences text, (ofOccurrence base o).offset = base + o.start
      ∧ (ofOccurrence base o).stop = base + o.stop ∧ o.start < o.stop := by
    intro o ho
    obtain ⟨nameStart, hstands, hrecord⟩ := exists_standsAt_of_mem ho
    obtain ⟨-, hstop, hstart⟩ := hstands.read
    rw [hrecord base, RenderCall.stop]
    refine ⟨rfl, ?_, by omega⟩
    show base + (nameStart : ℤ) + o.value.2.length + 1 = base + o.stop
    omega
  refine ⟨?_, ?_, ?_⟩
  · intro call hcall
    obtain ⟨o, ho, rfl⟩ := List.mem_map.1 hcall
    obtain ⟨nameStart, hstands, hrecord⟩ := exists_standsAt_of_mem ho
    exact ⟨o.start, nameStart, o.stop, o.value.1, o.value.2, hstands, hrecord base,
      (hbounds o ho).2.1⟩
  · rw [all, List.pairwise_map]
    apply (pairwise_occurrencesFrom reader 0 0 text).imp_of_mem
    intro o o' ho ho' hle
    have := hbounds o ho
    have := hbounds o' ho'
    omega
  · intro start nameStart stop isPartial name hstands
    obtain ⟨hread, hstop, hstart⟩ := hstands.read
    have hlt : start < text.length := by
      rw [← Nat.not_le, ← List.drop_eq_nil_iff]
      intro hnil
      rw [hnil] at hread
      cases hread
    rcases exists_occurrence hlt hread with hmem | ⟨o, ho, hbefore, hinside⟩
    · left
      rw [← hstands.ofOccurrence_eq base]
      exact List.mem_map_of_mem hmem
    · right
      refine ⟨_, List.mem_map_of_mem ho, ?_⟩
      have := hbounds o ho
      omega

/-- The name of a call may look like a call, whose name begins at the closing quote. -/
theorem all_listsCalls_inside :
    let text : Text := "->render(\x27::render(\x27 \x27b\x27)".toList
    StandsAt text 10 20 22 false " ".toList
      ∧ ∃ earlier ∈ all text 100, earlier.offset < 110 ∧ 110 < earlier.stop := by
  intro text
  have hstands : StandsAt text 10 20 22 false " ".toList := by
    refine ⟨"::render(\x27 \x27".toList, 10, by decide, ?_, rfl, rfl⟩
    exact ⟨"::".toList, [], [], [], '\x27', _, rfl, rfl, rfl, Or.inr rfl, nofun, by decide⟩
  refine ⟨hstands, ?_⟩
  rcases (all_listsCalls text 100).2.2 10 20 22 false " ".toList hstands with hmem | hinside
  · exact absurd hmem (by decide)
  · exact hinside

end RenderCall
end YiiNavigator
