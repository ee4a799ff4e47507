import YiiNavigator.Proofs.Path.Clean

/-!
# Paths below a path, told by their texts

A clean path lies below another when its text begins with that of the other and a slash, though
names may be prefixes of each other. Its text ends like its last name, as far as no slash is asked
for.
-/

namespace YiiNavigator
namespace Path

variable {p q : Path} {name ending : Text} {names more : List Text}

lemma IsClean.print_inj (hp : p.IsClean) (hq : q.IsClean) (h : p.print = q.print) : p = q := by
  rw [← hp.read_print, h, hq.read_print]

/-- Paths that lead on from the same path have the same text only if their names are the same. -/
lemma IsClean.under_inj (hnames : (p.under names).IsClean) (hmore : (p.under more).IsClean)
    (h : (p.under names).print = (p.under more).print) : names = more :=
  List.append_cancel_left (congrArg Path.segments (hnames.print_inj hmore h))

/-! ## Beginnings -/

/-- What the texts of the paths below a path begin with. -/
def front (p : Path) : Text :=
  Text.trimEnd p.print '/' ++ ['/']

lemma front_of_nil (hanchor : p.anchor = .root) (h : p.segments = []) : p.front = ['/'] := by
  obtain ⟨anchor, segments⟩ := p
  obtain rfl : anchor = .root := hanchor
  obtain rfl : segments = [] := h
  rfl

lemma IsClean.front_of_ne_nil (hp : p.IsClean) (h : p.segments ≠ []) :
    p.front = p.print ++ ['/'] := by
  have hlast : p.print.getLast? ≠ some '/' := by
    rw [print_eq_spell (.inr h)]
    exact hp.getLast?_spell h
  unfold front
  rw [Text.trimEnd_eq_self hlast]

lemma intercalate_append (hnames : names ≠ []) (hmore : more ≠ []) :
    ['/'].intercalate (names ++ more)
      = ['/'].intercalate names ++ '/' :: ['/'].intercalate more := by
  induction names with
  | nil => exact absurd rfl hnames
  | cons first rest ih =>
    rcases rest with - | ⟨second, rest⟩
    · rw [List.singleton_append, List.intercalate_cons_of_ne_nil hmore,
        List.intercalate_singleton, List.append_assoc]
      rfl
    · have hrest := ih (List.cons_ne_nil _ _)
      rw [List.cons_append, List.intercalate_cons_of_ne_nil (by simp), hrest,
        List.intercalate_cons_of_ne_nil (List.cons_ne_nil _ _)]
      simp

/-- The text of a path below another one. -/
lemma IsClean.print_below (hp : p.IsClean) (hanchor : p.anchor = .root) (hmore : more ≠ []) :
    (p.under more).print = p.front ++ ['/'].intercalate more := by
  by_cases hnil : p.segments = []
  · rw [front_of_nil hanchor hnil, print_under hmore, spell]
    show p.anchor.print ++ ['/'].intercalate (p.segments ++ more) = _
    rw [hanchor, hnil, List.nil_append]
    rfl
  · rw [hp.front_of_ne_nil hnil, print_under hmore, print_eq_spell (.inr hnil), spell, spell]
    show p.anchor.print ++ ['/'].intercalate (p.segments ++ more) = _
    rw [intercalate_append hnil hmore]
    simp

/-- A text that comes with a slash behind a path with names leads on from it. -/
lemma IsClean.read_append_slash_cons (hp : p.IsClean) (hne : p.segments ≠ []) (text : Text) :
    read (p.print ++ '/' :: text) = p.under (read text).segments := by
  have hnames : ['/'].intercalate p.segments ≠ [] := by
    obtain ⟨first, rest, hsegments⟩ := List.exists_cons_of_ne_nil hne
    obtain ⟨tail, htail⟩ := exists_intercalate_cons first rest
    have hfirst : IsName first := hp first (by rw [hsegments]; exact List.mem_cons_self)
    rw [hsegments, htail]
    exact fun hnil => hfirst.ne_nil (List.append_eq_nil_iff.1 hnil).1
  have hhead : (['/'].intercalate p.segments ++ '/' :: text).head? ≠ some '/' := by
    rw [List.head?_append_of_ne_nil _ hnames]
    exact hp.head?_intercalate
  have hanchor : Anchor.read (p.print ++ '/' :: text) = p.anchor := by
    rw [print_eq_spell (.inr hne), spell, List.append_assoc]
    by_cases hrelative : p.anchor = .relative
    · rw [hrelative]
      exact anchor_read_of_no_slash hhead
    · exact anchor_read_append hrelative hhead
  have hsegments : (read (p.print ++ '/' :: text)).segments
      = p.segments ++ (read text).segments := by
    rw [segments_read_append_slash, hp.read_print]
  exact congrArg₂ Path.mk hanchor hsegments

/-- The text of a path with names begins with the front of those that it leads on from, and of no
others. A path without names is told from its anchor alone, so that the anchors have to be the same
then. -/
lemma IsClean.front_prefix_iff (hp : p.IsClean) (hq : q.IsClean) (hanchor : p.anchor = .root)
    (hnames : p.segments = [] → q.anchor = .root ∧ q.segments ≠ []) :
    p.front <+: q.print ↔ ∃ more, more ≠ [] ∧ q = p.under more := by
  constructor
  · rintro ⟨rest, hrest⟩
    by_cases hnil : p.segments = []
    · obtain ⟨hqanchor, hne⟩ := hnames hnil
      have hunder : q = p.under q.segments := by
        unfold Path.under
        rw [hnil, hanchor, ← hqanchor]
        rfl
      exact ⟨q.segments, hne, hunder⟩
    · have hfront := hp.front_of_ne_nil hnil
      have hunder : q = p.under (read rest).segments := by
        rw [← hq.read_print, ← hrest, hfront, List.append_assoc, List.singleton_append,
          hp.read_append_slash_cons hnil]
      refine ⟨(read rest).segments, fun hmore => ?_, hunder⟩
      -- the front of a path with names is longer than its text
      rw [hmore, under_nil] at hunder
      have hlength := congrArg List.length hrest
      rw [hfront, hunder] at hlength
      simp at hlength
  · rintro ⟨more, hmore, rfl⟩
    exact ⟨['/'].intercalate more, (hp.print_below hanchor hmore).symm⟩

/-! ## The way down -/

lemma dropCommon_append (names more : List Text) :
    dropCommon names (names ++ more) = ([], more) := by
  induction names with
  | nil => rcases more with - | ⟨first, rest⟩ <;> rfl
  | cons name names ih =>
    show (if name = name then dropCommon names (names ++ more) else _) = _
    rw [if_pos rfl, ih]

/-- The way from a path down to one that leads on from it is the names that lead there. -/
lemma IsNormal.relativeText_under (workingDirectory : Text) (hp : p.IsNormal)
    (hunder : (p.under names).IsNormal) :
    relativeText workingDirectory p.print (p.under names).print = print ⟨.relative, names⟩ := by
  have habsolute : ∀ q : Path, q.IsNormal →
      (read (absoluteText workingDirectory q.print)).segments = q.segments := by
    intro q hq
    have hslash : ['/'].isPrefixOf q.print = true := by
      rcases hanchor : q.anchor with - | - | -
      · exact absurd hanchor hq.anchored
      · rw [print_eq hq.anchored, hanchor]
        rfl
      · rw [print_eq hq.anchored, hanchor]
        rfl
    unfold absoluteText
    rw [if_pos hslash, hq.normalizeText, hq.clean.read_print]
  unfold relativeText
  rw [habsolute p hp, habsolute _ hunder, Path.under, dropCommon_append]
  rfl

/-! ## Ends -/

/-- The text of a path ends like its last name. -/
lemma suffix_print_iff (hanchor : p.anchor ≠ .relative) (hending : '/' ∉ ending) :
    ending <:+ (p.under [name]).print ↔ ending <:+ name := by
  obtain ⟨front, hfront⟩ : ∃ front : Text, (p.under [name]).print = front ++ '/' :: name := by
    rw [print_under_singleton hanchor]
    split
    · rename_i hnil
      obtain ⟨front, hfront, -⟩ := anchor_print_eq hanchor
      refine ⟨front, ?_⟩
      rw [print_eq hanchor, hnil, hfront, List.intercalate_nil, List.append_nil]
      simp
    · exact ⟨p.print, rfl⟩
  rw [hfront]
  constructor
  · intro h
    rcases List.suffix_or_suffix_of_suffix h (List.suffix_append front ('/' :: name)) with h | h
    · rcases List.suffix_cons_iff.1 h with rfl | h
      · exact absurd List.mem_cons_self hending
      · exact h
    · exact absurd (h.subset List.mem_cons_self) hending
  · exact fun h => h.trans ((List.suffix_cons _ _).trans (List.suffix_append _ _))

end Path
end YiiNavigator
