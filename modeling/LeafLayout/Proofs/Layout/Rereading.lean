import LeafLayout.Proofs.Layout.Structure

/-!
What a layout reads back of an earlier one, which may have been in another style. With a blank
indent a text is read back from its line as it was written there, and shaping it once more makes of
it what would have been made of it at first. A region that is blank throughout is the exception,
because what is held of it is its last character, and that is a line break once it has been laid
out. The difference does not show if the earlier style leaves such regions alone, nor if the later
one makes a single space of them.
-/

set_option autoImplicit false

namespace LeafLayout.Style

open Text Markup

variable {style first second : Style}

/-! ### Shaping again -/

/-- Nothing is there to strip from a core. -/
theorem shape_of_isCore {text : List Char} (h : IsCore text) :
    style.shape text = if style.squeeze = true then Text.squeeze text else text := by
  unfold shape
  split_ifs
  · exact h.squeeze.strip_eq
  · rfl
  · exact h.strip_eq
  · rfl

theorem isCore_shape {text : List Char} (h : IsCore text) : IsCore (style.shape text) := by
  rw [shape_of_isCore h]
  split_ifs
  · exact h.squeeze
  · exact h

theorem shape_shape_of_isCore (hsqueeze : first.squeeze = true → second.squeeze = true)
    {text : List Char} (h : IsCore text) :
    second.shape (first.shape text) = second.shape text := by
  rw [shape_of_isCore (isCore_shape h), shape_of_isCore h, shape_of_isCore h]
  by_cases hfirst : first.squeeze = true
  · have hsecond := hsqueeze hfirst
    rw [if_pos hfirst, if_pos hsecond, if_pos hsecond, squeeze_squeeze]
  · rw [if_neg hfirst]

theorem allBlank_shape_text_iff (style : Style) (leaf : Leaf) :
    AllBlank (style.shape leaf.text) ↔ AllBlank leaf.region := by
  rw [← nonblanks_eq_nil_iff, ← nonblanks_eq_nil_iff, nonblanks_shape, Leaf.text, nonblanks_held]

theorem shape_text_ne_nil_of_not_allBlank (style : Style) {leaf : Leaf}
    (hregion : ¬ AllBlank leaf.region) : style.shape leaf.text ≠ [] := by
  intro hempty
  have hblank := (style.allBlank_shape_text_iff leaf).not.mpr hregion
  rw [hempty] at hblank
  exact hblank fun _ hc ↦ by cases hc

theorem shape_eq_nil_of_allBlank (hstrip : style.strip = true) {text : List Char}
    (h : AllBlank text) : style.shape text = [] := by
  unfold shape
  rw [if_pos hstrip, strip_eq_nil_iff, ← nonblanks_eq_nil_iff]
  split_ifs
  · rw [nonblanks_squeeze, nonblanks_eq_nil_iff]
    exact h
  · rw [nonblanks_eq_nil_iff]
    exact h

theorem shape_singleton_of_isBlank (hstrip : style.strip = false) (hsqueeze : style.squeeze = true)
    {c : Char} (hc : isBlank c = true) : style.shape [c] = [' '] := by
  simp [shape, hstrip, hsqueeze, Text.squeeze, squeezeAfter, hc]

/-! ### Reading a line back -/

theorem allBlank_break_indent (hindent : AllBlank style.indent) :
    AllBlank ('\n' :: style.indent) :=
  (allBlank_singleton isBlank_newline).append hindent

/-- A text that is not blank throughout comes back from its line as it was shown there. -/
theorem shape_held_lineRegion (hindent : AllBlank first.indent)
    (hsqueeze : first.squeeze = true → second.squeeze = true) {leaf : Leaf}
    (hregion : ¬ AllBlank leaf.region) :
    second.shape (held (first.lineRegion leaf)) = second.shape leaf.text := by
  have htext : IsCore leaf.text := isCore_held hregion
  rw [lineRegion, held_append_append (allBlank_break_indent hindent) (isCore_shape htext)
    (first.shape_text_ne_nil_of_not_allBlank hregion) (allBlank_singleton isBlank_newline),
    shape_shape_of_isCore hsqueeze htext]

/-- Of a blank text on its line the line break is held on to. -/
theorem held_lineRegion_of_allBlank (hindent : AllBlank style.indent) {leaf : Leaf}
    (hregion : AllBlank leaf.region) : held (style.lineRegion leaf) = ['\n'] := by
  have hshown := (style.allBlank_shape_text_iff leaf).mpr hregion
  have hblank := ((allBlank_break_indent hindent).append hshown).append
    (allBlank_singleton isBlank_newline)
  rw [lineRegion, held_of_allBlank hblank, List.getLast?_concat]
  rfl

theorem exists_text_eq_singleton {element : Element} (h : AllBlank element.region) :
    ∃ c, isBlank c = true ∧ (element.leafAt 0).text = [c] := by
  obtain ⟨c, hc⟩ := Option.ne_none_iff_exists'.mp
    (mt List.getLast?_eq_none_iff.mp element.region_ne_nil)
  refine ⟨c, h c (List.mem_of_getLast? hc), ?_⟩
  change held element.region = [c]
  rw [held_of_allBlank h, hc]
  rfl

/-! ### An element laid out -/

theorem relaid_eq_self (hplain : '<' ∉ style.indent) {element : Element}
    (h : style.leafBlock? (element.leafAt 0) = none) : style.relaid hplain element = element :=
  Element.ext_fields rfl rfl (if_pos h)

theorem region_relaid (hplain : '<' ∉ style.indent) {element : Element}
    (h : style.leafBlock? (element.leafAt 0) ≠ none) :
    (style.relaid hplain element).region = style.lineRegion (element.leafAt 0) :=
  if_neg h

theorem text_relaid (hplain : '<' ∉ style.indent) {element : Element}
    (h : style.leafBlock? (element.leafAt 0) ≠ none) :
    ((style.relaid hplain element).leafAt 0).text = held (style.lineRegion (element.leafAt 0)) :=
  congrArg held (region_relaid hplain h)

theorem text_relaid_of_allBlank (hplain : '<' ∉ style.indent) (hindent : AllBlank style.indent)
    {element : Element} (hblock : style.leafBlock? (element.leafAt 0) ≠ none)
    (hregion : AllBlank element.region) :
    ((style.relaid hplain element).leafAt 0).text = ['\n'] :=
  (text_relaid hplain hblock).trans (held_lineRegion_of_allBlank hindent hregion)

/-- A style that strips lays out no region that is blank throughout. -/
theorem strip_eq_false_of_leafBlock?_ne_none {element : Element}
    (hblock : style.leafBlock? (element.leafAt 0) ≠ none) (hregion : AllBlank element.region) :
    style.strip = false := by
  obtain ⟨c, hc, htext⟩ := exists_text_eq_singleton hregion
  rw [Ne, leafBlock?_eq_none_iff, not_or, htext] at hblock
  rw [← Bool.not_eq_true]
  exact fun hstrip ↦ hblock.2 (shape_eq_nil_of_allBlank hstrip (allBlank_singleton hc))

/-- The second style shows of an element that the first one has laid out what it shows of the
element itself. -/
theorem shape_text_relaid (hplain : '<' ∉ first.indent) (hindent : AllBlank first.indent)
    (hsqueeze : first.squeeze = true → second.squeeze = true)
    (hstrip : first.strip = true ∨ second.strip = false ∧ second.squeeze = true)
    {element : Element} (hblock : first.leafBlock? (element.leafAt 0) ≠ none) :
    second.shape ((first.relaid hplain element).leafAt 0).text =
      second.shape (element.leafAt 0).text := by
  by_cases hregion : AllBlank element.region
  · obtain ⟨c, hc, htext⟩ := exists_text_eq_singleton hregion
    have hleft := strip_eq_false_of_leafBlock?_ne_none hblock hregion
    obtain ⟨hkept, hsqueezed⟩ := hstrip.resolve_left (by simp [hleft])
    rw [text_relaid_of_allBlank hplain hindent hblock hregion, htext,
      shape_singleton_of_isBlank hkept hsqueezed hc,
      shape_singleton_of_isBlank hkept hsqueezed isBlank_newline]
  · rw [text_relaid hplain hblock]
    exact shape_held_lineRegion hindent hsqueeze hregion

end LeafLayout.Style
