import LeafLayout.Proofs.Layout.Blocks
import LeafLayout.Proofs.Markup.Gaps
import LeafLayout.Proofs.Markup.Leftmost

/-!
A layout as a splice. A leaf that stays as it is does not end a copy, so that many leaves and the
text around them may be written in one piece. The outcome is the same as if the document were taken
apart at every leaf and each leaf with a block were replaced by it, while all else is put back as it
was.
-/

set_option autoImplicit false

namespace LeafLayout

open Text Markup

namespace Markup

/-- Runs of text with an insert after each but the last. -/
def spliced : List (List Char) → List (List Char) → List Char
  | [], _ => []
  | run :: runs, inserts => run ++ (List.zipWith (· ++ ·) inserts runs).flatten

theorem plainRuns_eq_cons (begun : List Char) (pieces : List Piece) :
    ∃ first more, plainRuns begun pieces = first :: more := by
  induction pieces generalizing begun with
  | nil => exact ⟨begun, [], rfl⟩
  | cons piece pieces ih =>
    rcases piece with c | found
    · exact ih (begun ++ [c])
    · exact ⟨begun, plainRuns [] pieces, rfl⟩

theorem length_plainRuns (begun : List Char) (offset : Nat) (pieces : List Piece) :
    (plainRuns begun pieces).length = (leavesAt offset pieces).length + 1 := by
  induction pieces generalizing begun offset with
  | nil => rfl
  | cons piece pieces ih =>
    rcases piece with c | found
    · exact ih (begun ++ [c]) _
    · exact congrArg (· + 1) (ih [] _)

/-- Elements put in between the runs of plain characters, in whatever form that does not depend on
their places, make up what the pieces do one after the other. -/
theorem spliced_plainRuns {form : Leaf → List Char} {formOf : Piece → List Char}
    (hplain : ∀ c, formOf (.plain c) = [c])
    (helement : ∀ found offset, formOf (.element found) = form (found.leafAt offset))
    (begun : List Char) (offset : Nat) (pieces : List Piece) :
    spliced (plainRuns begun pieces) ((leavesAt offset pieces).map form) =
      begun ++ pieces.flatMap formOf := by
  induction pieces generalizing begun offset with
  | nil => rfl
  | cons piece pieces ih =>
    rw [List.flatMap_cons]
    rcases piece with c | found
    · rw [hplain, ← List.append_assoc]
      exact ih (begun ++ [c]) _
    · obtain ⟨first, more, hruns⟩ := plainRuns_eq_cons [] pieces
      have hrest := ih [] (offset + octetCount found.source)
      rw [hruns, List.nil_append] at hrest
      rw [helement found offset, ← hrest]
      simp [plainRuns, leavesAt, hruns, spliced]

end Markup

/-- A layout is the text outside the leaves of the document with a text for each leaf in between,
its block if it has one and otherwise the leaf as it stands. With every leaf as it stands that is
the document. A leaf has no block if its element has no content or content of another kind, or if it
is left without text. -/
theorem Style.arrange_eq_spliced (style : Style) (document : List Char) :
    ∃ outside : List (List Char),
      gaps document = outside.map some ∧
      outside.length = (leaves document).length + 1 ∧
      ((leaves document).map fun leaf ↦ textBetween document leaf.start leaf.stop) =
        ((leaves document).map fun leaf ↦ some leaf.source) ∧
      spliced outside ((leaves document).map fun leaf ↦ leaf.source) = document ∧
      style.arrange document = spliced outside ((leaves document).map fun leaf ↦
        (style.leafBlock? leaf).getD leaf.source) ∧
      ∀ leaf : Leaf, style.leafBlock? leaf = none ↔
        isContentless leaf.name = true ∨ isVerbatim leaf.name = true ∨
          style.shape leaf.text = [] := by
  obtain ⟨pieces, hpieces⟩ := exists_segmented document
  refine ⟨plainRuns [] pieces, hpieces.gaps_eq, ?_, ?_, ?_, ?_, fun leaf ↦ ?_⟩
  · rw [hpieces.leaves_eq]
    exact length_plainRuns [] 0 pieces
  · have hleftmost := hpieces.isLeftmost []
    rw [List.nil_append, octetCount_nil, ← hpieces.leaves_eq] at hleftmost
    exact List.map_congr_left fun leaf hleaf ↦ (hleftmost.isLeafOf leaf hleaf).textBetween_eq
  · have hsource (found : Element) (offset : Nat) :
        (Piece.element found).source = (found.leafAt offset).source := rfl
    rw [hpieces.leaves_eq, spliced_plainRuns (fun _ ↦ rfl) hsource]
    exact hpieces.sourceOf_eq
  · have hrendered (found : Element) (offset : Nat) : style.rendered (.element found) =
        (style.leafBlock? (found.leafAt offset)).getD (found.leafAt offset).source := rfl
    rw [hpieces.leaves_eq, spliced_plainRuns (fun _ ↦ rfl) hrendered]
    exact arrange_eq hpieces
  · rw [leafBlock?_eq_none_iff, Bool.or_eq_true, or_assoc]

end LeafLayout
