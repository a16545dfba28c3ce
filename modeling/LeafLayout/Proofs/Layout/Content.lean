import LeafLayout.Proofs.Layout.Blocks

/-!
What a layout keeps. Shaping a text moves blanks only, and so does laying out an element as long as
the indent is blank. Since a document is laid out piece by piece, its characters that are not blank
come through a layout all and in order.
-/

set_option autoImplicit false

namespace LeafLayout.Style

open Text Markup

variable {style : Style}

theorem nonblanks_shape (style : Style) (text : List Char) :
    nonblanks (style.shape text) = nonblanks text := by
  unfold shape
  split_ifs
  · rw [nonblanks_strip, nonblanks_squeeze]
  · rw [nonblanks_squeeze]
  · rw [nonblanks_strip]
  · rfl

theorem nonblanks_lineRegion (style : Style) (leaf : Leaf) :
    nonblanks (style.lineRegion leaf) = nonblanks style.indent ++ nonblanks leaf.region := by
  have hbreak : nonblanks ['\n'] = [] := rfl
  have hleading : nonblanks ('\n' :: style.indent) = nonblanks style.indent := rfl
  rw [lineRegion, nonblanks_append, nonblanks_append, hleading, hbreak, List.append_nil,
    nonblanks_shape]
  exact congrArg (nonblanks style.indent ++ ·) (nonblanks_held leaf.region)

/-- Two leaves with the same tags show the same if their regions do. -/
theorem nonblanks_source_congr {leaf : Leaf} {region : List Char}
    (h : nonblanks region = nonblanks leaf.region) :
    nonblanks { leaf with region := region }.source = nonblanks leaf.source := by
  have hparts (content : List Char) : { leaf with region := content }.source =
      ('<' :: leaf.name ++ leaf.attributes ++ ['>']) ++ content ++
        ('<' :: '/' :: leaf.name ++ ['>']) := by
    simp [Leaf.source]
  rw [hparts region, show leaf.source = _ from hparts leaf.region]
  simp only [nonblanks_append, h]

theorem nonblanks_rendered (hindent : AllBlank style.indent) (piece : Piece) :
    nonblanks (style.rendered piece) = nonblanks piece.source := by
  rcases piece with c | found
  · rfl
  · rw [rendered]
    cases hblock : style.leafBlock? (found.leafAt 0) with
    | none => rfl
    | some block =>
      have hregion := style.nonblanks_lineRegion (found.leafAt 0)
      rw [(nonblanks_eq_nil_iff style.indent).mpr hindent, List.nil_append] at hregion
      rw [Option.getD_some, eq_source_of_leafBlock?_eq_some hblock, nonblanks_source_congr hregion]
      rfl

theorem nonblanks_flatMap_rendered (hindent : AllBlank style.indent) (pieces : List Piece) :
    nonblanks (pieces.flatMap style.rendered) = nonblanks (sourceOf pieces) := by
  induction pieces with
  | nil => rfl
  | cons piece pieces ih =>
    rw [List.flatMap_cons, nonblanks_append, nonblanks_rendered hindent, ih, ← nonblanks_append]
    rfl

/-- A layout with a blank indent loses, doubles and moves no character that is not blank. -/
theorem nonblanks_arrange (style : Style) (document : List Char)
    (hindent : ∀ c ∈ style.indent, isBlank c = true) :
    nonblanks (style.arrange document) = nonblanks document := by
  obtain ⟨pieces, hpieces⟩ := exists_segmented document
  calc nonblanks (style.arrange document)
      = nonblanks (pieces.flatMap style.rendered) := by rw [arrange_eq hpieces]
    _ = nonblanks (sourceOf pieces) := nonblanks_flatMap_rendered hindent pieces
    _ = nonblanks document := by rw [hpieces.sourceOf_eq]

/-- A tab as the indent and no stripping. -/
def tabbed : Style := { indent := ['\t'], strip := false }

theorem nonblanks_arrange_tabbed :
    (∀ c ∈ tabbed.indent, isBlank c = true) ∧
      nonblanks (tabbed.arrange "<p id> a  b</p>".toList) = "<pid>ab</p>".toList := by
  have hindent : AllBlank tabbed.indent := by decide
  exact ⟨hindent, (nonblanks_arrange tabbed _ hindent).trans (by decide +kernel)⟩

end LeafLayout.Style
