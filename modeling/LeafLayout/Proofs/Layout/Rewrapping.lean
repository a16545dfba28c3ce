import LeafLayout.Proofs.Layout.Lines
import LeafLayout.Proofs.Layout.Seams
import LeafLayout.Proofs.Layout.Succession
import LeafLayout.Proofs.Markup.Refilling

/-!
Texts wrapped in other ways. Where texts are squeezed, all that a layout shows of a region with
something in it are its words, so that the blanks between them and around them may be others. A
region put in place of another moves all that stands behind it, and a bracket in front whose tag is
still open reads on through it; but no element appears or vanishes by it.
-/

set_option autoImplicit false

namespace LeafLayout

open Text

namespace Markup

/-- Where the region of a leaf begins, just after its open tag. -/
def Leaf.regionStart (leaf : Leaf) : Nat :=
  leaf.start + octetCount ('<' :: leaf.name ++ leaf.attributes ++ ['>'])

/-- What stands before and after the region of one of the elements. -/
theorem sourceOf_append_element (first second : List Piece) (element : Element) :
    sourceOf (first ++ .element element :: second) =
      (sourceOf first ++ ('<' :: element.name ++ element.attributes ++ ['>'])) ++ element.region ++
        ('<' :: '/' :: element.name ++ ['>'] ++ sourceOf second) := by
  rw [sourceOf_append, sourceOf_element, element.source_eq_tags]
  simp only [List.append_assoc]

end Markup

open Markup

namespace Style

variable {style : Style}

/-- Regions with the same words show the same where texts are squeezed. -/
theorem shape_held_of_words_eq (hsqueeze : style.squeeze = true) {first second : List Char}
    (hfirst : ¬ AllBlank first) (hwords : words second = words first) :
    style.shape (held second) = style.shape (held first) := by
  have hsecond : ¬ AllBlank second := by
    rwa [← words_eq_nil_iff, hwords, words_eq_nil_iff]
  rw [shape_held_of_not_allBlank hfirst, shape_held_of_not_allBlank hsecond, lineText, lineText,
    if_neg hfirst, if_neg hsecond, if_pos hsqueeze, if_pos hsqueeze, hwords]

/-- An element that is laid out is written alike with every region that has the same words. -/
theorem rendered_refill (hsqueeze : style.squeeze = true) {element : Element}
    (hcontent : isContentless element.name = false) (hverbatim : isVerbatim element.name = false)
    (hshown : ¬ AllBlank element.region) {region : List Char} (hne : region ≠ [])
    (hplain : '<' ∉ region) (hwords : words region = words element.region) :
    style.rendered (.element (element.refill region hne hplain)) =
      style.rendered (.element element) := by
  have hblock : style.leafBlock? ((element.refill region hne hplain).leafAt 0) =
      style.leafBlock? (element.leafAt 0) :=
    leafBlock?_congr rfl rfl (shape_held_of_words_eq hsqueeze hshown hwords)
  have hlaid : style.leafBlock? (element.leafAt 0) ≠ none := by
    rw [Ne, leafBlock?_eq_none_iff_region element.region_ne_nil]
    simp [Element.leafAt, hcontent, hverbatim, hshown]
  obtain ⟨block, hsome⟩ := Option.ne_none_iff_exists'.mp hlaid
  rw [rendered, rendered, hblock, hsome, Option.getD_some, Option.getD_some]

/-- An element that is written alike with another region may have that region in the document. -/
theorem arrange_append_element {document : List Char} {first second : List Piece}
    {found : Element} (hpieces : Segmented document (first ++ .element found :: second))
    (other : Element) (hname : found.name = other.name)
    (hattributes : found.attributes = other.attributes)
    (hrendered : style.rendered (.element other) = style.rendered (.element found)) :
    style.arrange (sourceOf (first ++ .element other :: second)) = style.arrange document := by
  have hrefilled := Refilled.append_cons first second hname hattributes
  calc style.arrange (sourceOf (first ++ .element other :: second))
      = (first ++ .element other :: second).flatMap style.rendered :=
        arrange_eq (hpieces.of_refilled hrefilled)
    _ = (first ++ .element found :: second).flatMap style.rendered := by
        rw [List.flatMap_append, List.flatMap_append, List.flatMap_cons, List.flatMap_cons,
          hrendered]
    _ = style.arrange document := (arrange_eq hpieces).symm

/-- Where texts are squeezed, with whatever indent and stripped or not, the region of a leaf that is
laid out may be replaced by any other text that begins no tag and has the same words: the layout
stays the same. -/
theorem arrange_rewrapped (style : Style) (hsqueeze : style.squeeze = true) (document : List Char)
    (leaf : Leaf) (hleaf : leaf ∈ leaves document) (hcontent : isContentless leaf.name = false)
    (hverbatim : isVerbatim leaf.name = false) (hshown : ¬ AllBlank leaf.region)
    (region : List Char) (hplain : '<' ∉ region) (hwords : words region = words leaf.region) :
    ∃ before after, document = before ++ leaf.region ++ after ∧
      octetCount before = leaf.regionStart ∧
      style.arrange (before ++ region ++ after) = style.arrange document := by
  obtain ⟨pieces, hpieces⟩ := exists_segmented document
  rw [hpieces.leaves_eq] at hleaf
  obtain ⟨first, found, second, rfl, rfl⟩ := exists_append_of_mem_leavesAt hleaf
  have hne : region ≠ [] := by
    rintro rfl
    rw [words_nil] at hwords
    exact hshown ((words_eq_nil_iff found.region).mp hwords.symm)
  have hrendered := rendered_refill hsqueeze hcontent hverbatim hshown hne hplain hwords
  have hsame :=
    arrange_append_element hpieces (found.refill region hne hplain) rfl rfl hrendered
  rw [sourceOf_append_element] at hsame
  refine ⟨_, _, ?_, ?_, hsame⟩
  · rw [← hpieces.sourceOf_eq]
    exact sourceOf_append_element first second found
  · rw [octetCount_append, Leaf.regionStart, Element.leafAt, Nat.zero_add]
    rfl

/-- The region has line breaks and a wide space in it, and a tag in front of it is still open. -/
theorem arrange_rewrapped_tabbed :
    let document := "<i <a:p x>\n a\u3000b </a><b>c</b>".toList
    let leaf : Leaf := ⟨3, 22, "a".toList, ":p x".toList, "\n a\u3000b ".toList⟩
    tabbed.squeeze = true ∧ leaf ∈ leaves document ∧
      isContentless leaf.name = false ∧ isVerbatim leaf.name = false ∧
      ¬ AllBlank leaf.region ∧ '<' ∉ "a b".toList ∧ words "a b".toList = words leaf.region ∧
      ∃ before after, document = before ++ leaf.region ++ after ∧ octetCount before = 10 ∧
        tabbed.arrange (before ++ "a b".toList ++ after) =
          "<i <a:p x>\n\ta b\n</a><b>\n\tc\n</b>".toList := by
  intro document leaf
  have hsqueeze : tabbed.squeeze = true := rfl
  have hleaf : leaf ∈ leaves document := by decide +kernel
  have hcontent : isContentless leaf.name = false := by decide +kernel
  have hverbatim : isVerbatim leaf.name = false := by decide +kernel
  have hshown : ¬ AllBlank leaf.region := by decide +kernel
  have hplain : '<' ∉ "a b".toList := by decide
  have hwords : words "a b".toList = words leaf.region := by decide +kernel
  obtain ⟨before, after, hdocument, hplace, hsame⟩ := arrange_rewrapped tabbed hsqueeze document
    leaf hleaf hcontent hverbatim hshown "a b".toList hplain hwords
  refine ⟨hsqueeze, hleaf, hcontent, hverbatim, hshown, hplain, hwords, before, after, hdocument,
    hplace.trans ?_, hsame.trans ?_⟩
  · decide +kernel
  · decide +kernel

end Style

end LeafLayout
