import YiiNavigator.Proofs.Convention
import YiiNavigator.Proofs.Path.Joining
import YiiNavigator.Proofs.Path.Settled
import YiiNavigator.View.Alias

/-!
# Where an alias leads

Aliases into the views of the application or of a module go through a views directory, which is
put together in another way than other paths are. The way makes no difference: an alias of the
application leads along its parts from the protected directory. Aliases of unknown roots lead
nowhere.
-/

namespace YiiNavigator

open YiiNavigator.Path

namespace Alias

variable {conv : Convention} {root dotted : Text} {rest : List Text}

/-- The first parts of the aliases that lead somewhere. -/
def roots : List Text :=
  ["application".toList, "zii".toList, "system".toList]

/-! ## Parts -/

lemma ne_nil_of_mem_parts {part : Text} (h : part ∈ parts dotted) : part ≠ [] := by
  rintro rfl
  cases (List.mem_filter.1 h).2

/-- The parts of an alias have the characters of the alias. -/
lemma notMem_of_mem_parts {part : Text} {c : Char} (hc : c ∉ dotted) (h : part ∈ parts dotted) :
    c ∉ part :=
  fun hmem => hc (mem_of_mem_splitOn (List.mem_filter.1 h).1 hmem).1

/-! ## The branches -/

/-- A views directory is the path that its names denote when they are joined, as it is printed. -/
lemma viewsDirectory_eq (conv : Convention) (root : Text) :
    conv.viewsDirectory root none
      = (read (joinTexts root [conv.protectedDir, conv.viewsDir])).print := by
  rw [← ofTexts_cons]
  rfl

lemma viewsDirectory_some_eq (conv : Convention) (root : Text) {module : Text}
    (h : module ≠ []) :
    conv.viewsDirectory root (some module)
      = (read (joinTexts root
          [conv.protectedDir, conv.modulesDir, module, conv.viewsDir])).print := by
  obtain ⟨c, cs, rfl⟩ := List.exists_cons_of_ne_nil h
  rw [← ofTexts_cons]
  rfl

/-- The path of an alias of the application is put together of the joined names up to some part, as
they are or printed as a path, and of the other parts. -/
lemma exists_inApplication (conv : Convention) (root : Text) (hrest : ∀ part ∈ rest, part ≠ []) :
    ∃ names more base, conv.protectedDir :: rest = names ++ more
      ∧ inApplication conv root rest = joinTexts base more
      ∧ (base = joinTexts root names ∨ base = (read (joinTexts root names)).print) := by
  have hgeneral : ∃ names more base, conv.protectedDir :: rest = names ++ more
      ∧ joinTexts (joinText root conv.protectedDir) rest = joinTexts base more
      ∧ (base = joinTexts root names ∨ base = (read (joinTexts root names)).print) :=
    ⟨[conv.protectedDir], rest, _, rfl, rfl, .inl rfl⟩
  unfold inApplication
  dsimp only
  split
  · exact hgeneral
  · split
    · rename_i hviews
      exact ⟨[conv.protectedDir, conv.viewsDir], _, _, by rw [hviews]; rfl, rfl,
        .inr (viewsDirectory_eq conv root)⟩
    · split
      · split
        · rename_i module _ _ hmodules
          have hmodule : module ≠ [] := hrest module (by simp)
          exact ⟨[conv.protectedDir, conv.modulesDir, module, conv.viewsDir], _, _,
            by rw [hmodules.1, hmodules.2]; rfl, rfl,
            .inr (viewsDirectory_some_eq conv root hmodule)⟩
        · exact hgeneral
      · exact hgeneral

/-- However it is put together, the path of an alias of the application leads along its parts. -/
lemma read_inApplication (conv : Convention) (root : Text) (hrest : ∀ part ∈ rest, part ≠ []) :
    read (inApplication conv root rest) = read (joinTexts root (conv.protectedDir :: rest)) := by
  obtain ⟨names, more, base, hparts, hpath, hbase⟩ := exists_inApplication conv root hrest
  have hread : read base = read (joinTexts root names) := by
    rcases hbase with rfl | rfl
    · rfl
    · exact (isClean_read _).read_print
  rw [hpath, hparts, joinTexts_append, read_joinTexts, read_joinTexts, hread]

/-- The path of an alias has no backslashes but those of the root, the convention and its parts. -/
lemma backslash_notMem_inApplication (hroot : '\\' ∉ root) (hprotected : '\\' ∉ conv.protectedDir)
    (hrest : ∀ part ∈ rest, part ≠ [] ∧ '\\' ∉ part) : '\\' ∉ inApplication conv root rest := by
  obtain ⟨names, more, base, hparts, hpath, hbase⟩ :=
    exists_inApplication conv root fun part h => (hrest part h).1
  have hall : ∀ part ∈ names ++ more, '\\' ∉ part := by
    rw [← hparts]
    exact List.forall_mem_cons.2 ⟨hprotected, fun part h => (hrest part h).2⟩
  obtain ⟨hnames, hmore⟩ := List.forall_mem_append.1 hall
  have hjoined : '\\' ∉ joinTexts root names := notMem_joinTexts (by decide) hroot hnames
  rw [hpath]
  refine notMem_joinTexts (by decide) ?_ hmore
  rcases hbase with rfl | rfl
  · exact hjoined
  · intro h
    rcases mem_print h with h | h | ⟨name, hname, hc⟩
    · exact absurd h (by decide)
    · exact absurd h (by decide)
    · exact hjoined (mem_of_mem_splitOn (List.mem_filter.1 hname).1 hc).1

/-- An alias leads nowhere when it has no part or an unknown first one. -/
lemma resolve?_eq_none_iff : resolve? conv root dotted = none
    ↔ parts dotted = [] ∨ ∃ first rest, parts dotted = first :: rest ∧ first ∉ roots := by
  unfold resolve?
  rcases parts dotted with - | ⟨first, rest⟩
  · exact iff_of_true rfl (.inl rfl)
  · have hroots : first ∈ roots ↔ first = "application".toList ∨ first = "zii".toList
        ∨ first = "system".toList := by
      simp only [roots, List.mem_cons, List.not_mem_nil, or_false]
    have hexists : (first :: rest = [] ∨ ∃ a b, first :: rest = a :: b ∧ a ∉ roots)
        ↔ first ∉ roots := by
      simp
    rw [hexists, hroots, not_or, not_or]
    dsimp only
    split
    · rename_i happlication
      exact iff_of_false (Option.some_ne_none _) fun h => h.1 happlication
    · rename_i happlication
      split
      · rename_i hzii
        exact iff_of_false (Option.some_ne_none _) fun h => h.2.1 hzii
      · rename_i hzii
        split
        · rename_i hsystem
          exact iff_of_false (Option.some_ne_none _) fun h => h.2.2 hsystem
        · rename_i hsystem
          exact iff_of_true rfl ⟨happlication, hzii, hsystem⟩

/-! ## The main result -/

/-- **Aliases of the application lead along their parts.** Whether it names views of the
application, views of a module or something else, an alias of the application denotes the path that
its other parts lead to from the protected directory. An alias leads nowhere exactly when it has no
part or its first one is no known root. -/
theorem resolve?_alongParts (conv : Convention) (root dotted : Text) :
    (∀ rest, '\\' ∉ root → '\\' ∉ conv.protectedDir → '\\' ∉ dotted →
        parts dotted = "application".toList :: rest →
        (resolve? conv root dotted).map canonical
          = some (canonical (joinTexts root (conv.protectedDir :: rest))))
      ∧ (resolve? conv root dotted = none
        ↔ parts dotted = [] ∨ ∃ first rest, parts dotted = first :: rest ∧ first ∉ roots) := by
  constructor
  · intro rest hroot hprotected hdotted hparts
    have hmem : ∀ part ∈ rest, part ∈ parts dotted := by
      rw [hparts]
      exact fun part h => List.mem_cons_of_mem _ h
    have hne : ∀ part ∈ rest, part ≠ [] := fun part h => ne_nil_of_mem_parts (hmem part h)
    have hback : ∀ part ∈ rest, '\\' ∉ part := fun part h =>
      notMem_of_mem_parts hdotted (hmem part h)
    have hresolve : resolve? conv root dotted = some (inApplication conv root rest) := by
      unfold resolve?
      rw [hparts]
      exact if_pos rfl
    have hspelled : '\\' ∉ inApplication conv root rest :=
      backslash_notMem_inApplication hroot hprotected fun part h => ⟨hne part h, hback part h⟩
    have hjoined : '\\' ∉ joinTexts root (conv.protectedDir :: rest) :=
      notMem_joinTexts (by decide) hroot (List.forall_mem_cons.2 ⟨hprotected, hback⟩)
    rw [hresolve, Option.map_some, canonical_of_no_backslash hspelled,
      canonical_of_no_backslash hjoined]
    unfold normalizeText
    rw [read_inApplication conv root hne]
  · exact resolve?_eq_none_iff

/-- An alias into the views of a module, with a root that is not in normal form and a part that has
slashes of its own, and an alias of an unknown root. -/
theorem resolve?_alongParts_module :
    (resolve? .stock "//ws/./".toList "application..modules.shop.views.cart//list".toList).map
          canonical
        = some "//ws/protected/modules/shop/views/cart/list".toList
      ∧ resolve? .stock "//ws/./".toList "webroot.views".toList = none := by
  have hparts : parts "application..modules.shop.views.cart//list".toList
      = "application".toList :: ["modules".toList, "shop".toList, "views".toList,
        "cart//list".toList] := by
    decide +kernel
  have hunknown : parts "webroot.views".toList = ["webroot".toList, "views".toList] := by
    decide +kernel
  constructor
  · rw [(resolve?_alongParts .stock "//ws/./".toList _).1 _ (by decide) (by decide) (by decide)
      hparts]
    decide +kernel
  · refine (resolve?_alongParts .stock "//ws/./".toList _).2.2 (.inr ⟨_, _, hunknown, ?_⟩)
    decide

end Alias
end YiiNavigator
