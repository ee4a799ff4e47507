import YiiNavigator.Proofs.StableSort
import YiiNavigator.Diagnostic.Checks

/-!
# The order of diagnostics

The order by starts is total, so that the diagnostics of a document are those of its checks, and
the ones of a kind stand in the document as they do when they are sorted alone.
-/

namespace YiiNavigator

lemma Position.precedes_trans (p q r : Position) (hpq : p.precedes q = true)
    (hqr : q.precedes r = true) : p.precedes r = true := by
  simp only [precedes, decide_eq_true_eq] at hpq hqr ⊢
  omega

lemma Position.precedes_total (p q : Position) : (p.precedes q || q.precedes p) = true := by
  simp only [precedes, Bool.or_eq_true, decide_eq_true_eq]
  omega

namespace Diagnostic

variable {conv : Convention} {fs : FileSystem} {root path text : Text}

lemma precedes_trans (a b c : Diagnostic) (hab : a.precedes b = true)
    (hbc : b.precedes c = true) : a.precedes c = true :=
  Position.precedes_trans a.start b.start c.start hab hbc

lemma precedes_total (a b : Diagnostic) : (a.precedes b || b.precedes a) = true :=
  Position.precedes_total a.start b.start

/-- The diagnostics of the delegated actions, if the document is a controller. -/
def delegated (conv : Convention) (root path text : Text) : List Diagnostic :=
  if Project.isController conv (some root) path then ofActionMap conv text else []

lemma ofDocument_eq :
    ofDocument conv fs root path text
      = (ofViews conv fs root path text ++ ofImports conv fs root text
          ++ delegated conv root path text).mergeSort precedes :=
  rfl

lemma mem_ofDocument {d : Diagnostic} :
    d ∈ ofDocument conv fs root path text
      ↔ d ∈ ofViews conv fs root path text ∨ d ∈ ofImports conv fs root text
        ∨ d ∈ delegated conv root path text := by
  rw [ofDocument_eq, List.mem_mergeSort, List.mem_append, List.mem_append, or_assoc]

lemma filter_ofDocument (p : Diagnostic → Bool) :
    (ofDocument conv fs root path text).filter p
      = ((ofViews conv fs root path text).filter p ++ (ofImports conv fs root text).filter p
          ++ (delegated conv root path text).filter p).mergeSort precedes := by
  rw [ofDocument_eq, StableSort.filter_mergeSort precedes_trans precedes_total,
    List.filter_append, List.filter_append]

end Diagnostic
end YiiNavigator
