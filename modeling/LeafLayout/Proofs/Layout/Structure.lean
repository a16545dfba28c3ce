import LeafLayout.Proofs.Layout.Content
import LeafLayout.Proofs.Markup.Gaps
import Mathlib.Data.List.Forall2

/-!
The leaves of a layout. An indent that begins no tag leaves the leaves of a document where they were
among the rest of its text: the layout has the same leaves in the same order, with the same names
and attributes, the same text outside them, and in each the region that the layout gives it.
-/

set_option autoImplicit false

namespace LeafLayout.Style

open Text Markup

variable {style : Style}

theorem tagStart_notMem_regionAfter (hindent : '<' ∉ style.indent) (element : Element) :
    '<' ∉ style.regionAfter (element.leafAt 0) := by
  unfold regionAfter
  split_ifs
  · exact element.region_plain
  · have hshape : '<' ∉ style.shape (element.leafAt 0).text := by
      intro hmem
      have hshown := (mem_nonblanks_iff _ _).mpr ⟨hmem, by decide⟩
      rw [nonblanks_shape, Leaf.text, nonblanks_held, mem_nonblanks_iff] at hshown
      exact element.region_plain hshown.1
    simp [lineRegion, hindent, hshape]

theorem regionAfter_ne_nil (element : Element) : style.regionAfter (element.leafAt 0) ≠ [] := by
  unfold regionAfter
  split_ifs
  · exact element.region_ne_nil
  · exact List.cons_ne_nil _ _

/-- The element as it is after the layout. -/
def relaid (style : Style) (hindent : '<' ∉ style.indent) (element : Element) : Element :=
  element.refill (style.regionAfter (element.leafAt 0)) (regionAfter_ne_nil element)
    (tagStart_notMem_regionAfter hindent element)

def relaidPiece (style : Style) (hindent : '<' ∉ style.indent) : Piece → Piece
  | .plain c => .plain c
  | .element found => .element (style.relaid hindent found)

theorem rendered_eq_source (hindent : '<' ∉ style.indent) (piece : Piece) :
    style.rendered piece = (style.relaidPiece hindent piece).source := by
  rcases piece with c | found
  · rfl
  · have hsource : (style.relaidPiece hindent (.element found)).source =
        { found.leafAt 0 with region := style.regionAfter (found.leafAt 0) }.source := rfl
    rw [hsource, rendered, regionAfter]
    cases hblock : style.leafBlock? (found.leafAt 0) with
    | none => rfl
    | some block =>
      rw [if_neg (by simp), Option.getD_some, eq_source_of_leafBlock?_eq_some hblock]

theorem arrange_eq_sourceOf (hindent : '<' ∉ style.indent) {document : List Char}
    {pieces : List Piece} (h : Segmented document pieces) :
    style.arrange document = sourceOf (pieces.map (style.relaidPiece hindent)) := by
  rw [arrange_eq h, sourceOf, List.flatMap_map]
  exact congrArg (List.flatMap · pieces) (funext (rendered_eq_source hindent))

theorem refilled_map_relaidPiece (hindent : '<' ∉ style.indent) (pieces : List Piece) :
    Refilled pieces (pieces.map (style.relaidPiece hindent)) := by
  induction pieces with
  | nil => exact .nil
  | cons piece pieces ih =>
    rcases piece with c | found
    · exact .plain c ih
    · exact .element rfl rfl ih

/-- The pieces of a layout are those of the document, the elements laid out. -/
theorem segmented_arrange (hindent : '<' ∉ style.indent) {document : List Char}
    {pieces : List Piece} (h : Segmented document pieces) :
    Segmented (style.arrange document) (pieces.map (style.relaidPiece hindent)) := by
  rw [arrange_eq_sourceOf hindent h]
  exact h.of_refilled (refilled_map_relaidPiece hindent pieces)

theorem forall₂_leavesAt_relaid (hindent : '<' ∉ style.indent) (pieces : List Piece)
    (offset later : Nat) :
    List.Forall₂ (fun old new : Leaf ↦ new.name = old.name ∧ new.attributes = old.attributes ∧
        new.region = style.regionAfter old)
      (leavesAt offset pieces) (leavesAt later (pieces.map (style.relaidPiece hindent))) := by
  induction pieces generalizing offset later with
  | nil => exact .nil
  | cons piece pieces ih =>
    rcases piece with c | found
    · exact ih _ _
    · exact .cons ⟨rfl, rfl, rfl⟩ (ih _ _)

/-- With an indent that begins no tag, the leaves of a layout are the leaves of the document, one by
one and in order, with their names and attributes and with the regions the layout gives them, and
what stands outside them is the same in both. -/
theorem arrange_keeps_leaves (style : Style) (document : List Char)
    (hindent : '<' ∉ style.indent) :
    List.Forall₂ (fun old new : Leaf ↦ new.name = old.name ∧ new.attributes = old.attributes ∧
        new.region = if style.leafBlock? old = none then old.region
          else '\n' :: style.indent ++ style.shape old.text ++ ['\n'])
      (leaves document) (leaves (style.arrange document)) ∧
    ∃ outside : List (List Char), gaps document = outside.map some ∧
      gaps (style.arrange document) = outside.map some := by
  obtain ⟨pieces, hpieces⟩ := exists_segmented document
  have harranged := segmented_arrange hindent hpieces
  constructor
  · rw [hpieces.leaves_eq, harranged.leaves_eq]
    exact forall₂_leavesAt_relaid hindent pieces 0 0
  · refine ⟨plainRuns [] pieces, hpieces.gaps_eq, ?_⟩
    rw [harranged.gaps_eq, (refilled_map_relaidPiece hindent pieces).plainRuns_eq]

/-- A tag that is never closed stays outside, and the next one is still read with the name that its
close tag has. -/
theorem arrange_tabbed_keeps_leaves :
    '<' ∉ tabbed.indent ∧ (leaves (tabbed.arrange "<i <a:x>y</a>".toList)).length = 1 ∧
      gaps (tabbed.arrange "<i <a:x>y</a>".toList) = [some "<i ".toList, some []] := by
  have hindent : '<' ∉ tabbed.indent := by decide
  obtain ⟨hleaves, outside, hbefore, hafter⟩ :=
    arrange_keeps_leaves tabbed "<i <a:x>y</a>".toList hindent
  refine ⟨hindent, hleaves.length_eq.symm.trans (by decide +kernel), ?_⟩
  rw [hafter, ← hbefore]
  decide +kernel

end LeafLayout.Style
