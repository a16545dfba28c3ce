import LeafLayout.Proofs.Layout.Rereading

/-!
When a second layout changes nothing. With a blank indent the text on a line of its own is read back
as it was written, and shaping it once more leaves it alone. A region that is blank throughout is
the exception, because what is held of it is its last character, and that is a line break once it
has been laid out. Squeezing or stripping hides this, and without them the second layout settles it.
An indent that is not blank becomes part of the text and grows with every layout.
-/

set_option autoImplicit false

namespace LeafLayout.Style

open Text Markup

variable {style : Style}

/-! ### One element again -/

section

variable (hplain : '<' ∉ style.indent)

/-- An element laid out stays as it is if it shows the same text again. -/
theorem relaid_relaid_of_shape_eq {element : Element}
    (h : style.leafBlock? (element.leafAt 0) ≠ none →
      style.shape ((style.relaid hplain element).leafAt 0).text =
        style.shape (element.leafAt 0).text) :
    style.relaid hplain (style.relaid hplain element) = style.relaid hplain element := by
  by_cases hblock : style.leafBlock? (element.leafAt 0) = none
  · have hkept := relaid_eq_self hplain hblock
    rw [hkept, hkept]
  · have hagain : style.leafBlock? ((style.relaid hplain element).leafAt 0) ≠ none := by
      rw [Ne, leafBlock?_eq_none_iff, h hblock]
      rwa [leafBlock?_eq_none_iff] at hblock
    refine Element.ext_fields rfl rfl ?_
    rw [region_relaid hplain hagain, region_relaid hplain hblock, lineRegion, h hblock, lineRegion]

theorem shape_eq_of_relaid_relaid {element : Element}
    (hblock : style.leafBlock? (element.leafAt 0) ≠ none)
    (hagain : style.leafBlock? ((style.relaid hplain element).leafAt 0) ≠ none)
    (h : style.relaid hplain (style.relaid hplain element) = style.relaid hplain element) :
    style.shape ((style.relaid hplain element).leafAt 0).text =
      style.shape (element.leafAt 0).text := by
  have hregion := congrArg Element.region h
  rw [region_relaid hplain hagain, region_relaid hplain hblock, lineRegion, lineRegion] at hregion
  exact List.append_cancel_left (List.append_cancel_right hregion)

theorem relaid_relaid (hindent : AllBlank style.indent)
    (hflags : style.squeeze = true ∨ style.strip = true) (element : Element) :
    style.relaid hplain (style.relaid hplain element) = style.relaid hplain element := by
  have hstrip : style.strip = true ∨ style.strip = false ∧ style.squeeze = true := by
    cases hon : style.strip with
    | true => exact Or.inl rfl
    | false => exact Or.inr ⟨rfl, hflags.resolve_right (by simp [hon])⟩
  exact relaid_relaid_of_shape_eq hplain fun hblock ↦
    shape_text_relaid hplain hindent id hstrip hblock

/-- Without squeezing and stripping the line break of a blank region is settled at the second
layout. -/
theorem relaid_relaid_relaid (hindent : AllBlank style.indent) (element : Element) :
    style.relaid hplain (style.relaid hplain (style.relaid hplain element)) =
      style.relaid hplain (style.relaid hplain element) := by
  by_cases hblock : style.leafBlock? (element.leafAt 0) = none
  · have hkept := relaid_eq_self hplain hblock
    rw [hkept, hkept, hkept]
  · by_cases hregion : AllBlank element.region
    · have hstill : AllBlank (style.relaid hplain element).region := by
        rw [region_relaid hplain hblock, ← nonblanks_eq_nil_iff, nonblanks_lineRegion,
          (nonblanks_eq_nil_iff _).mpr hindent, List.nil_append, nonblanks_eq_nil_iff]
        exact hregion
      apply relaid_relaid_of_shape_eq
      intro hagain
      rw [text_relaid_of_allBlank hplain hindent hagain hstill,
        text_relaid_of_allBlank hplain hindent hblock hregion]
    · have hsettled : style.relaid hplain (style.relaid hplain element) =
          style.relaid hplain element :=
        relaid_relaid_of_shape_eq hplain fun _ ↦
          (congrArg style.shape (text_relaid hplain hblock)).trans
            (shape_held_lineRegion hindent id hregion)
      rw [hsettled, hsettled]

/-! ### A document again -/

theorem arrange_arrange_eq_sourceOf {document : List Char} {pieces : List Piece}
    (h : Segmented document pieces) :
    style.arrange (style.arrange document) =
      sourceOf ((pieces.map (style.relaidPiece hplain)).map (style.relaidPiece hplain)) :=
  arrange_eq_sourceOf hplain (segmented_arrange hplain h)

/-- A second layout changes no document exactly if it changes no element. -/
theorem forall_arrange_arrange_iff :
    (∀ document, style.arrange (style.arrange document) = style.arrange document) ↔
      ∀ element, style.relaid hplain (style.relaid hplain element) =
        style.relaid hplain element := by
  constructor
  · intro h element
    have halone : Segmented (element.source ++ []) [.element element] := .element .done
    have hagain := h (element.source ++ [])
    rw [arrange_arrange_eq_sourceOf hplain halone, arrange_eq_sourceOf hplain halone] at hagain
    exact (Element.source_append_inj hagain).1
  · intro h document
    obtain ⟨pieces, hpieces⟩ := exists_segmented document
    rw [arrange_arrange_eq_sourceOf hplain hpieces, arrange_eq_sourceOf hplain hpieces,
      List.map_map]
    refine congrArg sourceOf (List.map_congr_left fun piece _ ↦ ?_)
    rcases piece with c | found
    · rfl
    · exact congrArg Piece.element (h found)

theorem arrange_arrange_of_allBlank (hindent : AllBlank style.indent)
    (hflags : style.squeeze = true ∨ style.strip = true) (document : List Char) :
    style.arrange (style.arrange document) = style.arrange document :=
  (forall_arrange_arrange_iff (tagStart_notMem_of_allBlank hindent)).mpr
    (relaid_relaid (tagStart_notMem_of_allBlank hindent) hindent hflags) document

theorem arrange_arrange_arrange (hindent : AllBlank style.indent) (document : List Char) :
    style.arrange (style.arrange (style.arrange document)) =
      style.arrange (style.arrange document) := by
  have hplain := tagStart_notMem_of_allBlank hindent
  obtain ⟨pieces, hpieces⟩ := exists_segmented document
  rw [arrange_arrange_eq_sourceOf hplain (segmented_arrange hplain hpieces),
    arrange_arrange_eq_sourceOf hplain hpieces, List.map_map, List.map_map, List.map_map]
  refine congrArg sourceOf (List.map_congr_left fun piece _ ↦ ?_)
  rcases piece with c | found
  · rfl
  · exact congrArg Piece.element (relaid_relaid_relaid hplain hindent found)

/-! ### Where a second layout does change something -/

/-- A paragraph without attributes. -/
def paragraph (region : List Char) (hne : region ≠ []) (htext : '<' ∉ region) : Element where
  name := ['p']
  attributes := []
  region := region
  isName := ⟨'p', [], rfl, by decide, by simp⟩
  name_edge := by decide
  attributes_plain := by decide
  region_ne_nil := hne
  region_plain := htext

/-- A paragraph that shows something is laid out. -/
theorem leafBlock?_ne_none_of_paragraph {leaf : Leaf} (hname : leaf.name = ['p'])
    (hshown : style.shape leaf.text ≠ []) : style.leafBlock? leaf ≠ none := by
  have hordinary : ¬ (isContentless ['p'] || isVerbatim ['p']) = true := by decide
  rw [Ne, leafBlock?_eq_none_iff, hname, not_or]
  exact ⟨hordinary, hshown⟩

theorem shape_text_ne_nil_of_nonblanks {leaf : Leaf} (h : nonblanks leaf.region ≠ []) :
    style.shape leaf.text ≠ [] := by
  intro hempty
  rw [← nonblanks_held, ← nonblanks_shape style] at h
  exact h (congrArg nonblanks hempty)

/-- What is not blank in an indent is added to a text once with every layout. -/
theorem allBlank_indent_of_relaid_relaid
    (h : ∀ element, style.relaid hplain (style.relaid hplain element) =
      style.relaid hplain element) : AllBlank style.indent := by
  let letter : Element := paragraph ['x'] (by decide) (by decide)
  have hblock : style.leafBlock? (letter.leafAt 0) ≠ none :=
    leafBlock?_ne_none_of_paragraph rfl (shape_text_ne_nil_of_nonblanks (by decide))
  have honce : nonblanks (style.relaid hplain letter).region = nonblanks style.indent ++ ['x'] := by
    rw [region_relaid hplain hblock, nonblanks_lineRegion]
    rfl
  have hagain : style.leafBlock? ((style.relaid hplain letter).leafAt 0) ≠ none := by
    refine leafBlock?_ne_none_of_paragraph rfl (shape_text_ne_nil_of_nonblanks ?_)
    change nonblanks (style.relaid hplain letter).region ≠ []
    rw [honce]
    exact List.append_ne_nil_of_right_ne_nil _ (List.cons_ne_nil 'x' [])
  have htwice : nonblanks style.indent ++ nonblanks (style.relaid hplain letter).region =
      nonblanks (style.relaid hplain letter).region := by
    have hregion := congrArg (nonblanks ·.region) (h letter)
    simp only [region_relaid hplain hagain, nonblanks_lineRegion] at hregion
    exact hregion
  rw [← nonblanks_eq_nil_iff]
  exact List.append_left_eq_self.mp htwice

/-- Without squeezing and stripping a blank that is not a line break becomes one. -/
theorem flag_of_relaid_relaid (hindent : AllBlank style.indent)
    (h : ∀ element, style.relaid hplain (style.relaid hplain element) =
      style.relaid hplain element) : style.squeeze = true ∨ style.strip = true := by
  by_contra hflags
  have hshape (text : List Char) : style.shape text = text := by
    unfold shape
    rw [if_neg fun hon ↦ hflags (Or.inr hon), if_neg fun hon ↦ hflags (Or.inl hon)]
  let space : Element := paragraph [' '] (by decide) (by decide)
  have hspace : (space.leafAt 0).text = [' '] := by decide
  have hblock : style.leafBlock? (space.leafAt 0) ≠ none := by
    apply leafBlock?_ne_none_of_paragraph rfl
    rw [hshape, hspace]
    exact List.cons_ne_nil ' ' []
  have hbroken := text_relaid_of_allBlank hplain hindent hblock (allBlank_singleton isBlank_space)
  have hagain : style.leafBlock? ((style.relaid hplain space).leafAt 0) ≠ none := by
    apply leafBlock?_ne_none_of_paragraph rfl
    rw [hshape, hbroken]
    exact List.cons_ne_nil '\n' []
  have hsame := shape_eq_of_relaid_relaid hplain hblock hagain (h space)
  rw [hshape, hshape, hbroken, hspace] at hsame
  exact absurd hsame (by decide)

end

/-- With an indent that begins no tag, a second layout changes nothing in any document exactly if
the indent is blank and texts are squeezed or stripped, as they are by default. With a blank indent
alone a third layout changes nothing. -/
theorem arrange_idempotent_iff :
    (∀ style : Style, '<' ∉ style.indent →
      ((∀ document, style.arrange (style.arrange document) = style.arrange document) ↔
        (∀ c ∈ style.indent, isBlank c = true) ∧ (style.squeeze = true ∨ style.strip = true))) ∧
    (∀ document, ({} : Style).arrange (({} : Style).arrange document) =
      ({} : Style).arrange document) ∧
    ∀ style : Style, (∀ c ∈ style.indent, isBlank c = true) → ∀ document,
      style.arrange (style.arrange (style.arrange document)) =
        style.arrange (style.arrange document) := by
  refine ⟨fun style hplain ↦ ?_, fun document ↦ ?_, fun style hindent document ↦ ?_⟩
  · rw [forall_arrange_arrange_iff hplain]
    constructor
    · intro h
      have hindent := allBlank_indent_of_relaid_relaid hplain h
      exact ⟨hindent, flag_of_relaid_relaid hplain hindent h⟩
    · intro h
      exact relaid_relaid hplain h.1 h.2
  · have hplain : '<' ∉ ({} : Style).indent := by decide
    have hindent : AllBlank ({} : Style).indent := by decide
    exact (forall_arrange_arrange_iff hplain).mpr (relaid_relaid hplain hindent (Or.inl rfl))
      document
  · exact arrange_arrange_arrange hindent document

theorem arrange_arrange_tabbed :
    '<' ∉ tabbed.indent ∧
      tabbed.arrange (tabbed.arrange "<p>\n a  b</p><b> </b>".toList) =
        "<p>\n\ta b\n</p><b>\n\t \n</b>".toList := by
  have hplain : '<' ∉ tabbed.indent := by decide
  have hindent : AllBlank tabbed.indent := by decide
  have htwice := (arrange_idempotent_iff.1 tabbed hplain).mpr ⟨hindent, Or.inl rfl⟩
    "<p>\n a  b</p><b> </b>".toList
  refine ⟨hplain, htwice.trans ?_⟩
  decide +kernel

end LeafLayout.Style
