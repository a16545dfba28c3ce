import LeafLayout.Proofs.Layout.Rereading
import LeafLayout.Proofs.Markup.Leftmost

/-!
Which documents a layout leaves as they are. A block may be longer or shorter than its leaf, so a
document might come out unchanged although its leaves did not, one of them making up for another.
With an indent that begins no tag this cannot be: the layout falls into pieces as the document does,
and a text falls into pieces in one way only.
-/

set_option autoImplicit false

namespace LeafLayout.Style

open Text Markup

/-- No leaf of a document has to be written anew: each has no block, or one that spells what stands
in its place already. -/
def KeepsLeaves (style : Style) (document : List Char) : Prop :=
  ∀ leaf ∈ leaves document, style.leafBlock? leaf = none ∨
    style.leafBlock? leaf = textBetween document leaf.start leaf.stop

instance (style : Style) (document : List Char) : Decidable (style.KeepsLeaves document) :=
  inferInstanceAs (Decidable (∀ leaf ∈ leaves document, _ ∨ _))

variable {style : Style} (hplain : '<' ∉ style.indent)

/-- An element stays as it is if it has no block, or a block that spells the element itself. -/
theorem relaid_eq_self_iff (element : Element) :
    style.relaid hplain element = element ↔
      style.leafBlock? (element.leafAt 0) = none ∨
        style.leafBlock? (element.leafAt 0) = some element.source := by
  have hspelt : style.relaid hplain element = element ↔
      (style.relaid hplain element).source = element.source := by
    refine ⟨congrArg Element.source, fun h ↦ ?_⟩
    have happend : (style.relaid hplain element).source ++ [] = element.source ++ [] := by rw [h]
    exact (Element.source_append_inj happend).1
  have hrendered : style.rendered (.element element) = (style.relaid hplain element).source :=
    rendered_eq_source hplain (.element element)
  rw [hspelt, ← hrendered, rendered, Option.getD_eq_iff, and_iff_left rfl, or_comm]

theorem map_relaidPiece_eq_self_iff (offset : Nat) (pieces : List Piece) :
    pieces.map (style.relaidPiece hplain) = pieces ↔
      ∀ leaf ∈ leavesAt offset pieces,
        style.leafBlock? leaf = none ∨ style.leafBlock? leaf = some leaf.source := by
  induction pieces generalizing offset with
  | nil => exact iff_of_true rfl fun leaf hleaf ↦ absurd hleaf List.not_mem_nil
  | cons piece pieces ih =>
    rw [List.map_cons, List.cons.injEq]
    rcases piece with c | found
    · rw [leavesAt, ← ih, relaidPiece]
      exact and_iff_right rfl
    · rw [leavesAt, List.forall_mem_cons, ← ih, relaidPiece, Piece.element.injEq,
        relaid_eq_self_iff]
      exact Iff.rfl

include hplain in
/-- A document stays as it is exactly if each of its leaves does. -/
theorem arrange_eq_self_iff (document : List Char) :
    style.arrange document = document ↔ style.KeepsLeaves document := by
  obtain ⟨pieces, hpieces⟩ := exists_segmented document
  have hleaves : style.KeepsLeaves document ↔ ∀ leaf ∈ leavesAt 0 pieces,
      style.leafBlock? leaf = none ∨ style.leafBlock? leaf = some leaf.source := by
    rw [← hpieces.leaves_eq]
    refine forall₂_congr fun leaf hleaf ↦ ?_
    rw [(isLeafOf_of_mem_leaves hleaf).textBetween_eq]
  rw [hleaves, ← map_relaidPiece_eq_self_iff hplain]
  constructor
  · intro hsame
    have hagain := segmented_arrange hplain hpieces
    rw [hsame] at hagain
    exact hagain.unique hpieces
  · intro hkept
    rw [arrange_eq_sourceOf hplain hpieces, hkept, hpieces.sourceOf_eq]

end LeafLayout.Style
