import LeafLayout.Proofs.Layout.Rereading

/-!
Layouts in different styles, one after the other. Where the later style reads back what the earlier
one has laid out as it would have read the document itself, the earlier layout leaves no trace, and
this whatever indent the later style has.
-/

set_option autoImplicit false

namespace LeafLayout.Style

open Text Markup

variable {style first second : Style}

/-- A block depends on the text of a leaf only through what is shown of it. -/
theorem leafBlock?_congr {leaf other : Leaf} (hname : leaf.name = other.name)
    (hattributes : leaf.attributes = other.attributes)
    (hshape : style.shape leaf.text = style.shape other.text) :
    style.leafBlock? leaf = style.leafBlock? other := by
  simp only [leafBlock?, block?, hname, hattributes, hshape]

/-- What a style that does not strip lays out is laid out by every style that squeezes and does not
strip, what a style that strips lays out by every style. -/
theorem leafBlock?_ne_none_of_leafBlock?_ne_none
    (hstrip : first.strip = true ∨ second.strip = false ∧ second.squeeze = true)
    {element : Element} (hblock : first.leafBlock? (element.leafAt 0) ≠ none) :
    second.leafBlock? (element.leafAt 0) ≠ none := by
  have hordinary : ¬ (isContentless element.name || isVerbatim element.name) = true := fun hkept ↦
    hblock ((leafBlock?_eq_none_iff _).mpr (Or.inl hkept))
  rw [Ne, leafBlock?_eq_none_iff, not_or]
  refine ⟨hordinary, ?_⟩
  by_cases hregion : AllBlank element.region
  · obtain ⟨c, hc, htext⟩ := exists_text_eq_singleton hregion
    have hleft := strip_eq_false_of_leafBlock?_ne_none hblock hregion
    obtain ⟨hkept, hsqueezed⟩ := hstrip.resolve_left (by simp [hleft])
    rw [htext, shape_singleton_of_isBlank hkept hsqueezed hc]
    exact List.cons_ne_nil ' ' []
  · exact second.shape_text_ne_nil_of_not_allBlank hregion

theorem rendered_relaidPiece (hplain : '<' ∉ first.indent) (hindent : AllBlank first.indent)
    (hsqueeze : first.squeeze = true → second.squeeze = true)
    (hstrip : first.strip = true ∨ second.strip = false ∧ second.squeeze = true) (piece : Piece) :
    second.rendered (first.relaidPiece hplain piece) = second.rendered piece := by
  rcases piece with c | found
  · rfl
  · rw [relaidPiece]
    by_cases hblock : first.leafBlock? (found.leafAt 0) = none
    · rw [relaid_eq_self hplain hblock]
    · have hsame : second.leafBlock? ((first.relaid hplain found).leafAt 0) =
          second.leafBlock? (found.leafAt 0) :=
        leafBlock?_congr rfl rfl (shape_text_relaid hplain hindent hsqueeze hstrip hblock)
      obtain ⟨block, hshown⟩ := Option.ne_none_iff_exists'.mp
        (leafBlock?_ne_none_of_leafBlock?_ne_none hstrip hblock)
      rw [rendered, rendered, hsame, hshown, Option.getD_some, Option.getD_some]

/-- A layout with a blank indent is not seen any more after a second layout, if the second squeezes
texts when the first does, and the first strips them or the second squeezes without stripping. The
indent of the second layout does not matter. -/
theorem arrange_arrange_eq_arrange (first second : Style) (document : List Char)
    (hindent : ∀ c ∈ first.indent, isBlank c = true)
    (hsqueeze : first.squeeze = true → second.squeeze = true)
    (hstrip : first.strip = true ∨ (second.strip = false ∧ second.squeeze = true)) :
    second.arrange (first.arrange document) = second.arrange document := by
  have hplain := tagStart_notMem_of_allBlank hindent
  obtain ⟨pieces, hpieces⟩ := exists_segmented document
  calc second.arrange (first.arrange document)
      = (pieces.map (first.relaidPiece hplain)).flatMap second.rendered :=
        arrange_eq (segmented_arrange hplain hpieces)
    _ = pieces.flatMap fun piece ↦ second.rendered (first.relaidPiece hplain piece) :=
        List.flatMap_map _ _ _
    _ = pieces.flatMap second.rendered :=
        congrArg (List.flatMap · pieces)
          (funext (rendered_relaidPiece hplain hindent hsqueeze hstrip))
    _ = second.arrange document := (arrange_eq hpieces).symm

/-- An indent that begins tags of its own, and no stripping. -/
def italic : Style := { indent := "<i>".toList, strip := false }

/-- One of the two leaves is blank, and the first layout does write it on a line of its own. -/
theorem arrange_italic_arrange_tabbed :
    (∀ c ∈ tabbed.indent, isBlank c = true) ∧ (tabbed.squeeze = true → italic.squeeze = true) ∧
      (italic.strip = false ∧ italic.squeeze = true) ∧
      italic.arrange (tabbed.arrange "<p>\n a  b</p><b> </b>".toList) =
        "<p>\n<i>a b\n</p><b>\n<i> \n</b>".toList := by
  have hindent : AllBlank tabbed.indent := by decide
  have hlater := arrange_arrange_eq_arrange tabbed italic "<p>\n a  b</p><b> </b>".toList hindent
    (fun _ ↦ rfl) (Or.inr ⟨rfl, rfl⟩)
  refine ⟨hindent, fun _ ↦ rfl, ⟨rfl, rfl⟩, hlater.trans ?_⟩
  decide +kernel

end LeafLayout.Style
