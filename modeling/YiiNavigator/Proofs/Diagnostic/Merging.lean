import YiiNavigator.FileSystem.Store
import YiiNavigator.Proofs.Convention
import YiiNavigator.Proofs.Diagnostic.Order
import YiiNavigator.Proofs.Text.Line

/-!
# How the checks of a document are merged

The diagnostics of a document come from three checks, and those of imports in two passes. Merging
them loses none and adds none. It sorts by rows and columns, which is the order of the text, and it
leaves diagnostics with one start as the checks give them (`ofDocument_mergesChecks`).
-/

namespace YiiNavigator
namespace Diagnostic

variable {conv : Convention} {fs : FileSystem} {root path text : Text}

/-! ## Diagnostics with one start -/

/-- Diagnostics with one start stand in a document as they do in its checks. -/
lemma filter_start_ofDocument (p : Position) :
    (ofDocument conv fs root path text).filter (·.start = p)
      = (ofViews conv fs root path text ++ ofImports conv fs root text
          ++ delegated conv root path text).filter (·.start = p) := by
  rw [ofDocument_eq]
  refine StableSort.filter_mergeSort_of_ties precedes_trans precedes_total ?_
  intro a _ b _ ha hb
  rw [decide_eq_true_eq] at ha hb
  simp [precedes, ha, hb, Position.precedes]

/-! ## Two diagnostics of one import -/

/-- How many imports of a text have a given alias. -/
def timesImported (text dotted : Text) : ℕ :=
  (Import.literals text).countP (·.name == dotted)

/-- The diagnostic of an import that leads nowhere. -/
def ofMissingImport (text : Text) (l : Literal) : Diagnostic :=
  ofName text l.offset l.name (.importMissing l.name)

/-- The diagnostic of an import whose alias comes several times. -/
def ofRepeatedImport (text : Text) (l : Literal) : Diagnostic :=
  ofName text l.offset l.name (.importRepeated l.name (timesImported text l.name))

lemma ofImports_eq :
    ofImports conv fs root text
      = ((Import.literals text).filter fun l => !importExists conv fs root l.name).map
          (ofMissingImport text)
        ++ ((Import.literals text).filter fun l => decide (1 < timesImported text l.name)).map
          (ofRepeatedImport text) :=
  rfl

/-- Of an import that leads nowhere and comes several times, that it leads nowhere is told first. -/
lemma sublist_ofImports {l : Literal} (hl : l ∈ Import.literals text)
    (hmissing : importExists conv fs root l.name = false)
    (hrepeated : 1 < timesImported text l.name) :
    [ofMissingImport text l, ofRepeatedImport text l].Sublist (ofImports conv fs root text) := by
  have hfirst : l ∈ (Import.literals text).filter fun l => !importExists conv fs root l.name :=
    List.mem_filter.2 ⟨hl, by rw [hmissing]; rfl⟩
  have hsecond : l ∈ (Import.literals text).filter
      fun l => decide (1 < timesImported text l.name) :=
    List.mem_filter.2 ⟨hl, decide_eq_true hrepeated⟩
  rw [ofImports_eq]
  exact List.Sublist.append (List.singleton_sublist.2 (List.mem_map_of_mem hfirst))
    (List.singleton_sublist.2 (List.mem_map_of_mem hsecond))

/-! ## The whole document -/

/-- The diagnostics of a document are those of its checks, in the order of the text. Those with one
start keep the order of the checks, so that of an import that leads nowhere and comes several times
the former is told first. -/
theorem ofDocument_mergesChecks (conv : Convention) (fs : FileSystem) (root path text : Text) :
    let merged := ofDocument conv fs root path text
    let checks := ofViews conv fs root path text ++ ofImports conv fs root text
      ++ if Project.isController conv (some root) path then ofActionMap conv text else []
    merged.Perm checks
      ∧ merged.Pairwise (fun a b => text.offsetAt a.start ≤ text.offsetAt b.start)
      ∧ (∀ p, merged.filter (·.start = p) = checks.filter (·.start = p))
      ∧ ∀ l ∈ Import.literals text, importExists conv fs root l.name = false →
        1 < timesImported text l.name →
        [ofMissingImport text l, ofRepeatedImport text l].Sublist merged := by
  intro merged checks
  refine ⟨List.mergeSort_perm _ _, ?_, filter_start_ofDocument, fun l hl hmissing hrepeated => ?_⟩
  · exact (List.pairwise_mergeSort precedes_trans precedes_total _).imp Text.offsetAt_mono
  · have hchecks := (sublist_ofImports hl hmissing hrepeated).trans
      ((List.sublist_append_right (ofViews conv fs root path text) _).trans
        (List.sublist_append_left _ (delegated conv root path text)))
    -- both diagnostics start at the name, and there the merged list is that of the checks
    have hstart := hchecks.filter (·.start = text.positionAt l.offset)
    rw [← filter_start_ofDocument] at hstart
    have hboth := hstart.trans List.filter_sublist
    rwa [List.filter_eq_self.2] at hboth
    intro d hd
    simp only [List.mem_cons, List.not_mem_nil, or_false] at hd
    rcases hd with rfl | rfl
    · exact decide_eq_true rfl
    · exact decide_eq_true rfl

/-- Both diagnostics of the second of two imports of one alias, neither of which leads anywhere. -/
theorem ofDocument_mergesChecks_repeated :
    let text := "Yii::import('system.a'); Yii::import('system.a');".toList
    let l : Literal := ⟨"system.a".toList, 38⟩
    let fs := Store.empty.fileSystem ['/']
    l ∈ Import.literals text ∧ importExists .stock fs "/ws".toList l.name = false
      ∧ 1 < timesImported text l.name
      ∧ [⟨.importMissing l.name, ⟨0, 38⟩, ⟨0, 46⟩⟩,
          ⟨.importRepeated l.name 2, ⟨0, 38⟩, ⟨0, 46⟩⟩].Sublist
        (ofDocument .stock fs "/ws".toList "/ws/index.php".toList text) := by
  intro text l fs
  have hl : l ∈ Import.literals text := by
    decide +kernel
  have hmissing : importExists .stock fs "/ws".toList l.name = false := by
    decide +kernel
  have hrepeated : 1 < timesImported text l.name := by
    decide +kernel
  obtain ⟨-, -, -, hboth⟩ :=
    ofDocument_mergesChecks .stock fs "/ws".toList "/ws/index.php".toList text
  exact ⟨hl, hmissing, hrepeated, hboth l hl hmissing hrepeated⟩

end Diagnostic
end YiiNavigator
