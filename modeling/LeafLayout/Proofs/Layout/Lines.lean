import LeafLayout.Proofs.Layout.Rereading
import LeafLayout.Proofs.Markup.Leftmost
import LeafLayout.Proofs.Text.Words

/-!
The line of a leaf by the region that stands between its tags. Holding, squeezing and stripping come
down to few cases: of a region with something in it the words or all between its outer blanks, of a
blank one a single space or its last character. Stripping decides no more than whether a blank
region is laid out at all.
-/

set_option autoImplicit false

namespace LeafLayout.Style

open Text Markup

variable {style : Style}

/-- The text on the line of a leaf: the words of its region with single spaces in between, or all
between its outer blanks if texts are not squeezed; of a blank region one space or else its last
character. -/
def lineText (style : Style) (region : List Char) : List Char :=
  if AllBlank region then
    if style.squeeze then [' '] else region.getLast?.toList
  else if style.squeeze then [' '].intercalate (words region) else Text.strip region

/-! ### The text of a leaf -/

theorem shape_held_of_not_allBlank {region : List Char} (hregion : ¬ AllBlank region) :
    style.shape (held region) = style.lineText region := by
  rw [shape_of_isCore (isCore_held hregion), held_of_not_allBlank hregion, squeeze_strip, lineText,
    if_neg hregion]

theorem shape_held_of_allBlank (hstrip : style.strip = false) {region : List Char}
    (hne : region ≠ []) (hregion : AllBlank region) :
    style.shape (held region) = style.lineText region := by
  obtain ⟨c, hlast⟩ := Option.ne_none_iff_exists'.mp (mt List.getLast?_eq_none_iff.mp hne)
  have hc : isBlank c = true := hregion c (List.mem_of_getLast? hlast)
  rw [held_of_allBlank hregion, lineText, if_pos hregion, hlast]
  by_cases hsqueeze : style.squeeze = true
  · rw [if_pos hsqueeze]
    exact shape_singleton_of_isBlank hstrip hsqueeze hc
  · rw [if_neg hsqueeze, shape, if_neg (by simp [hstrip]), if_neg hsqueeze]

/-- Only stripping leaves nothing to show of a region, and only of a blank one. -/
theorem shape_held_eq_nil_iff {region : List Char} (hne : region ≠ []) :
    style.shape (held region) = [] ↔ style.strip = true ∧ AllBlank region := by
  constructor
  · intro hempty
    have hregion : AllBlank region := by
      rw [← nonblanks_eq_nil_iff, ← nonblanks_held, ← nonblanks_shape style, hempty]
      rfl
    refine ⟨?_, hregion⟩
    by_contra hstrip
    rw [Bool.not_eq_true] at hstrip
    rw [shape_held_of_allBlank hstrip hne hregion, lineText, if_pos hregion] at hempty
    split_ifs at hempty
    exact hne (List.getLast?_eq_none_iff.mp (Option.toList_eq_nil_iff.mp hempty))
  · rintro ⟨hstrip, hregion⟩
    refine shape_eq_nil_of_allBlank hstrip ?_
    rw [← nonblanks_eq_nil_iff, nonblanks_held, nonblanks_eq_nil_iff]
    exact hregion

/-! ### The block of a leaf -/

theorem leafBlock?_eq_none_iff_region {leaf : Leaf} (hne : leaf.region ≠ []) :
    style.leafBlock? leaf = none ↔
      isContentless leaf.name = true ∨ isVerbatim leaf.name = true ∨
        style.strip = true ∧ AllBlank leaf.region := by
  rw [leafBlock?_eq_none_iff, Leaf.text, shape_held_eq_nil_iff hne, Bool.or_eq_true, or_assoc]

/-- What is laid out of a leaf is read off its region. -/
theorem leafBlock?_eq_some_region {leaf : Leaf} (hne : leaf.region ≠ [])
    (hblock : style.leafBlock? leaf ≠ none) :
    style.leafBlock? leaf =
      some ('<' :: leaf.name ++ leaf.attributes ++ ['>', '\n'] ++ style.indent ++
        style.lineText leaf.region ++ ['\n', '<', '/'] ++ leaf.name ++ ['>']) := by
  have hshown : style.shape leaf.text = style.lineText leaf.region := by
    by_cases hregion : AllBlank leaf.region
    · have hstrip : style.strip = false := by
        rw [Ne, leafBlock?_eq_none_iff_region hne] at hblock
        rw [← Bool.not_eq_true]
        exact fun hstrip ↦ hblock (Or.inr (Or.inr ⟨hstrip, hregion⟩))
      exact shape_held_of_allBlank hstrip hne hregion
    · exact shape_held_of_not_allBlank hregion
  rw [leafBlock?_eq, if_neg (mt (leafBlock?_eq_none_iff leaf).mpr hblock)]
  simp [Leaf.source, lineRegion, hshown]

theorem arrangeFrom_congr {first second : Style} {found : List Leaf}
    (h : ∀ leaf ∈ found, first.leafBlock? leaf = second.leafBlock? leaf) (copied : Cursor Char) :
    first.arrangeFrom copied found = second.arrangeFrom copied found := by
  induction found generalizing copied with
  | nil => rfl
  | cons leaf found ih =>
    have hmore := ih fun other hother ↦ h other (List.mem_cons_of_mem leaf hother)
    simp only [arrangeFrom, h leaf List.mem_cons_self, hmore]

/-- Styles that lay out each leaf of a document alike lay out the document alike. -/
theorem arrange_congr {first second : Style} {document : List Char}
    (h : ∀ leaf ∈ leaves document, first.leafBlock? leaf = second.leafBlock? leaf) :
    first.arrange document = second.arrange document :=
  arrangeFrom_congr h (Cursor.start document)

/-- Where a region is not blank, stripping has nothing to do any more. -/
theorem leafBlock?_strip {leaf : Leaf} (hregion : ¬ AllBlank leaf.region) (strip : Bool) :
    { style with strip := strip }.leafBlock? leaf = style.leafBlock? leaf := by
  have hne : leaf.region ≠ [] := by
    intro hempty
    rw [hempty] at hregion
    exact hregion fun _ hc ↦ by cases hc
  have hnone (other : Style) : other.leafBlock? leaf = none ↔
      isContentless leaf.name = true ∨ isVerbatim leaf.name = true := by
    simp [leafBlock?_eq_none_iff_region hne, hregion]
  by_cases hkept : style.leafBlock? leaf = none
  · rw [hkept, hnone, ← hnone style, hkept]
  · have hlater : { style with strip := strip }.leafBlock? leaf ≠ none := by
      rwa [Ne, hnone, ← hnone style]
    rw [leafBlock?_eq_some_region hne hkept, leafBlock?_eq_some_region hne hlater]
    rfl

/-- A leaf of a document stays as it is if its element has no content or content of another kind, or
if its region is blank and texts are stripped. Otherwise its tags are kept and its region decides
what stands on the line between them, in whichever way texts are stripped. So it does not matter to
a document whether they are, unless a leaf that could be laid out is blank. -/
theorem leafBlock?_of_region (style : Style) (document : List Char) :
    (∀ leaf ∈ leaves document,
      (style.leafBlock? leaf = none ↔
        isContentless leaf.name = true ∨ isVerbatim leaf.name = true ∨
          style.strip = true ∧ AllBlank leaf.region) ∧
      (style.leafBlock? leaf ≠ none →
        style.leafBlock? leaf =
          some ('<' :: leaf.name ++ leaf.attributes ++ ['>', '\n'] ++ style.indent ++
            style.lineText leaf.region ++ ['\n', '<', '/'] ++ leaf.name ++ ['>']))) ∧
    ((∀ leaf ∈ leaves document, isContentless leaf.name = false → isVerbatim leaf.name = false →
        ¬ AllBlank leaf.region) →
      ∀ strip : Bool, { style with strip := strip }.arrange document = style.arrange document) := by
  have hne : ∀ leaf ∈ leaves document, leaf.region ≠ [] := by
    intro leaf hleaf
    obtain ⟨before, element, after, -, rfl⟩ := isLeafOf_of_mem_leaves hleaf
    exact element.region_ne_nil
  refine ⟨fun leaf hleaf ↦ ⟨leafBlock?_eq_none_iff_region (hne leaf hleaf),
    leafBlock?_eq_some_region (hne leaf hleaf)⟩, fun hshown strip ↦ arrange_congr ?_⟩
  intro leaf hleaf
  by_cases hregion : AllBlank leaf.region
  · have hkept : isContentless leaf.name = true ∨ isVerbatim leaf.name = true := by
      by_contra hordinary
      rw [not_or, Bool.not_eq_true, Bool.not_eq_true] at hordinary
      exact hshown leaf hleaf hordinary.1 hordinary.2 hregion
    have hnone (other : Style) : other.leafBlock? leaf = none := by
      rw [leafBlock?_eq_none_iff, Bool.or_eq_true]
      exact Or.inl hkept
    rw [hnone, hnone]
  · exact leafBlock?_strip hregion strip

/-- The second leaf is blank, but its element never has content. -/
theorem leafBlock?_of_region_tabbed :
    let document := "<p>\n a  b\t</p><BR> </BR>".toList
    let leaf : Leaf := ⟨0, 14, "p".toList, [], "\n a  b\t".toList⟩
    leaf ∈ leaves document ∧ tabbed.leafBlock? leaf = some "<p>\n\ta b\n</p>".toList ∧
      (∀ other ∈ leaves document, isContentless other.name = false →
        isVerbatim other.name = false → ¬ AllBlank other.region) ∧
      { tabbed with strip := true }.arrange document = tabbed.arrange document := by
  intro document leaf
  have hleaf : leaf ∈ leaves document := by decide +kernel
  have hshown : ∀ other ∈ leaves document, isContentless other.name = false →
      isVerbatim other.name = false → ¬ AllBlank other.region := by
    decide +kernel
  obtain ⟨hleaves, hdocument⟩ := leafBlock?_of_region tabbed document
  have hblock : tabbed.leafBlock? leaf ≠ none := by
    rw [Ne, (hleaves leaf hleaf).1]
    decide +kernel
  refine ⟨hleaf, ((hleaves leaf hleaf).2 hblock).trans ?_, hshown, hdocument hshown true⟩
  decide +kernel

end LeafLayout.Style
