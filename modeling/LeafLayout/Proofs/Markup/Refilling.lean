import LeafLayout.Proofs.Markup.Segmentation

/-!
Elements with other regions. A document in which elements are given other regions falls into pieces
as before: no element appears or vanishes. Where an element begins does not depend on what the
elements further on hold, because a reading that reaches the next of them either ends before it or
runs on to its close tag, whatever stands between.
-/

set_option autoImplicit false

namespace LeafLayout.Markup

open Text

/-- The same pieces but for the regions of the elements. -/
inductive Refilled : List Piece → List Piece → Prop
  | nil : Refilled [] []
  | plain (c : Char) {pieces others : List Piece} :
    Refilled pieces others → Refilled (.plain c :: pieces) (.plain c :: others)
  | element {first second : Element} {pieces others : List Piece} :
    first.name = second.name → first.attributes = second.attributes → Refilled pieces others →
      Refilled (.element first :: pieces) (.element second :: others)

namespace Refilled

theorem symm {pieces others : List Piece} (h : Refilled pieces others) :
    Refilled others pieces := by
  induction h with
  | nil => exact .nil
  | plain c _ ih => exact .plain c ih
  | element hname hattributes _ ih => exact .element hname.symm hattributes.symm ih

theorem refl (pieces : List Piece) : Refilled pieces pieces := by
  induction pieces with
  | nil => exact .nil
  | cons piece pieces ih =>
    rcases piece with c | found
    · exact .plain c ih
    · exact .element rfl rfl ih

/-- One element among the pieces gets another region. -/
theorem append_cons (first second : List Piece) {found other : Element}
    (hname : found.name = other.name) (hattributes : found.attributes = other.attributes) :
    Refilled (first ++ .element found :: second) (first ++ .element other :: second) := by
  induction first with
  | nil => exact .element hname hattributes (.refl second)
  | cons piece first ih =>
    rcases piece with c | element
    · exact .plain c ih
    · exact .element rfl rfl ih

/-- Up to the first element two refilled documents are one text. -/
theorem sourceOf_eq_or {pieces others : List Piece} (h : Refilled pieces others) :
    sourceOf pieces = sourceOf others ∨
      ∃ (gap : List Char) (first second : Element) (rest more : List Char),
        first.name = second.name ∧ first.attributes = second.attributes ∧
          sourceOf pieces = gap ++ first.source ++ rest ∧
            sourceOf others = gap ++ second.source ++ more := by
  induction h with
  | nil => exact Or.inl rfl
  | @plain c pieces others _ ih =>
    rcases ih with heq | ⟨gap, first, second, rest, more, hname, hattributes, hfirst, hsecond⟩
    · exact Or.inl (congrArg (c :: ·) heq)
    · exact Or.inr ⟨c :: gap, first, second, rest, more, hname, hattributes,
        congrArg (c :: ·) hfirst, congrArg (c :: ·) hsecond⟩
  | @element first second pieces others hname hattributes _ _ =>
    exact Or.inr ⟨[], first, second, sourceOf pieces, sourceOf others, hname, hattributes, rfl, rfl⟩

/-- An element that begins before refilled ones begins there after they are refilled. -/
theorem beginsElement_cons {pieces others : List Piece} (h : Refilled pieces others) (c : Char)
    (hbegins : BeginsElement (c :: sourceOf pieces)) : BeginsElement (c :: sourceOf others) := by
  rcases h.sourceOf_eq_or with heq | ⟨gap, first, second, rest, more, hname, hattributes, hfirst,
    hsecond⟩
  · rwa [← heq]
  · obtain ⟨element, after, hsource⟩ := hbegins
    rw [hfirst] at hsource
    obtain ⟨rfl, -⟩ := List.cons.inj (hsource.trans (element.source_append after))
    rw [hsecond]
    by_cases hend : '>' ∈ gap
    · obtain ⟨between, hbetween⟩ := Element.ends_before_of_tagEnd_mem hsource.symm hend
      refine ⟨element, between ++ second.source ++ more, ?_⟩
      rw [← List.cons_append, ← List.cons_append, hbetween, List.append_assoc, List.append_assoc,
        List.append_assoc]
    · obtain ⟨htag, -, hshared⟩ := Element.shares_of_tagEnd_notMem hsource.symm hend
      have htags : first.tag = second.tag := by rw [Element.tag, Element.tag, hname, hattributes]
      refine ⟨element.refill second.region second.region_ne_nil second.region_plain, more, ?_⟩
      have hrefilled : (element.refill second.region second.region_ne_nil
          second.region_plain).tag = gap ++ '<' :: second.tag := htag.trans (by rw [htags])
      have hclosing : (element.refill second.region second.region_ne_nil
          second.region_plain).name = second.name := hshared.trans hname
      rw [List.append_assoc, Element.source_append, Element.source_append, hrefilled, hclosing]
      simp [Element.refill]

end Refilled

/-- Refilled pieces are the pieces of the text they spell. -/
theorem Segmented.of_refilled {text : List Char} {pieces others : List Piece}
    (h : Segmented text pieces) (hothers : Refilled pieces others) :
    Segmented (sourceOf others) others := by
  induction hothers generalizing text with
  | nil => exact .done
  | @plain c pieces others hrest ih =>
    cases h with
    | @plain _ text _ hbegins htext =>
      refine .plain (fun hbegins' ↦ hbegins ?_) (ih htext)
      rw [← htext.sourceOf_eq]
      exact hrest.symm.beginsElement_cons c hbegins'
  | element _ _ _ ih =>
    cases h with
    | element htext => exact .element (ih htext)

end LeafLayout.Markup
