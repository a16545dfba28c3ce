import LeafLayout.Proofs.Layout.Blocks
import LeafLayout.Proofs.Markup.Cuts

/-!
The copying of a document into its layout. The cursor stands behind the last leaf that was laid
out, and every leaf to come lies ahead of it and ends in the document. Where a leaf is laid out the
document is therefore cut at both its ends, so that nothing is copied twice or lost.
-/

set_option autoImplicit false

namespace LeafLayout.Style

open Text Markup

/-- Copying goes well from a cursor of the document on: each leaf to come lies between the cursor
and the end of the document, and both cuts are made where it is laid out. -/
def CopiesWell (style : Style) (document : List Char) (copied : Cursor Char) : List Leaf → Prop
  | [] => copied.IsIn document
  | leaf :: more =>
    copied.IsIn document ∧ copied.offset ≤ leaf.start ∧ leaf.start ≤ leaf.stop ∧
      leaf.stop ≤ octetCount document ∧
      match style.leafBlock? leaf with
      | none => style.CopiesWell document copied more
      | some _ => ∃ gap passed atLeaf afterLeaf, copied.cutAt? leaf.start = some (gap, atLeaf) ∧
        atLeaf.cutAt? leaf.stop = some (passed, afterLeaf) ∧
        style.CopiesWell document afterLeaf more

/-- What is pending between the cursor and the pieces is copied with the gap before the next leaf
that is laid out. -/
theorem copiesWell_leavesAt (style : Style) {document : List Char} (offset : Nat)
    (pending : List Char) (pieces : List Piece)
    (hcopied : (⟨offset, pending ++ sourceOf pieces⟩ : Cursor Char).IsIn document) :
    style.CopiesWell document ⟨offset, pending ++ sourceOf pieces⟩
      (leavesAt (offset + octetCount pending) pieces) := by
  induction pieces generalizing offset pending with
  | nil => exact hcopied
  | cons piece pieces ih =>
    rcases piece with c | found
    · rw [sourceOf_plain, List.append_cons] at hcopied ⊢
      have hmore := ih _ _ hcopied
      rwa [octetCount_append, octetCount_singleton, ← Nat.add_assoc] at hmore
    · rw [sourceOf_element] at hcopied ⊢
      have hleaf := hcopied.advance rfl
      have hafter := hleaf.advance rfl
      refine ⟨hcopied, Nat.le_add_right _ _, Nat.le_add_right _ _, IsEdge.le ⟨_, hafter⟩, ?_⟩
      rw [leafBlock?_leafAt]
      cases style.leafBlock? (found.leafAt 0) with
      | none =>
        rw [← List.append_assoc] at hcopied ⊢
        have hmore := ih _ _ hcopied
        rwa [octetCount_append, ← Nat.add_assoc] at hmore
      | some block =>
        have hmore := ih _ [] hafter
        exact ⟨_, _, _, _, Cursor.cutAt?_append _ _ _, Cursor.cutAt?_append _ _ _, hmore⟩

/-- Every cut of a scan and of a layout is made inside the document, forwards and between
characters. -/
theorem cutsWell_and_copiesWell (style : Style) (document : List Char) :
    (∀ record ∈ (Scanner.ofDocument document).visits, record.CutsWell document) ∧
      style.CopiesWell document (Cursor.start document) (leaves document) := by
  refine ⟨visits_cutsWell document, ?_⟩
  obtain ⟨pieces, hpieces⟩ := exists_segmented document
  rw [hpieces.leaves_eq, ← hpieces.sourceOf_eq]
  exact style.copiesWell_leavesAt 0 [] pieces (Cursor.start_isIn _)

end LeafLayout.Style
