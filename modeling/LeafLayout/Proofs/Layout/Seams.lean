import LeafLayout.Proofs.Layout.Blocks

/-!
Documents cut in two. At a seam, where no bracket stands open since the last leaf has ended, the two
parts of a document have nothing to do with each other: an element that begins in the first part
ends there, and what begins no element in the whole begins none in a part. So the leaves of the
document are those of the first part and, further on, those of the second, and its layout is the
layout of the one and then that of the other.
-/

set_option autoImplicit false

namespace LeafLayout

open Text

namespace Markup

/-- The leaf at a place further on. -/
def Leaf.moved (leaf : Leaf) (distance : Nat) : Leaf :=
  { leaf with start := distance + leaf.start, stop := distance + leaf.stop }

/-- Where the last leaf ends of those that end at a limit or before, if there is any. -/
def lastStop (limit start : Nat) (found : List Leaf) : Nat :=
  found.foldl (fun last leaf ↦ if leaf.stop ≤ limit then leaf.stop else last) start

/-- No tag begins between the offset and the last leaf that has ended there, or the front of the
document if none has. -/
def IsSeam (document : List Char) (offset : Nat) : Prop :=
  ∃ gap, textBetween document (lastStop offset 0 (leaves document)) offset = some gap ∧ '<' ∉ gap

/-! ### Pieces in two parts -/

theorem BeginsElement.append {text : List Char} (h : BeginsElement text) (more : List Char) :
    BeginsElement (text ++ more) := by
  obtain ⟨element, rest, rfl⟩ := h
  exact ⟨element, rest ++ more, List.append_assoc element.source rest more⟩

theorem sourceOf_append (first second : List Piece) :
    sourceOf (first ++ second) = sourceOf first ++ sourceOf second :=
  List.flatMap_append

/-- Some of the pieces of a text are the pieces of what they spell. -/
theorem Segmented.of_append {text : List Char} {first second : List Piece}
    (h : Segmented text (first ++ second)) :
    Segmented (sourceOf first) first ∧ Segmented (sourceOf second) second := by
  induction first generalizing text with
  | nil =>
    rw [List.nil_append] at h
    exact ⟨.done, h.sourceOf_eq ▸ h⟩
  | cons piece first ih =>
    rw [List.cons_append] at h
    cases h with
    | @plain c text _ hbegins htext =>
      obtain ⟨hfirst, hsecond⟩ := ih htext
      refine ⟨.plain (fun hpart ↦ hbegins ?_) hfirst, hsecond⟩
      rw [← htext.sourceOf_eq, sourceOf_append]
      exact hpart.append (sourceOf second)
    | element htext =>
      obtain ⟨hfirst, hsecond⟩ := ih htext
      exact ⟨.element hfirst, hsecond⟩

theorem leavesAt_append (offset : Nat) (first second : List Piece) :
    leavesAt offset (first ++ second) =
      leavesAt offset first ++ leavesAt (offset + octetCount (sourceOf first)) second := by
  induction first generalizing offset with
  | nil => rfl
  | cons piece first ih =>
    rcases piece with c | found
    · have hroom : octetCount (c :: sourceOf first) = c.utf8Size + octetCount (sourceOf first) :=
        octetCount_cons c (sourceOf first)
      rw [List.cons_append, leavesAt, leavesAt, ih, sourceOf_plain, hroom, Nat.add_assoc]
    · rw [List.cons_append, leavesAt, leavesAt, ih, sourceOf_element, octetCount_append,
        Nat.add_assoc, List.cons_append]

theorem leavesAt_add (distance offset : Nat) (pieces : List Piece) :
    leavesAt (distance + offset) pieces =
      (leavesAt offset pieces).map (·.moved distance) := by
  induction pieces generalizing offset with
  | nil => rfl
  | cons piece pieces ih =>
    rcases piece with c | found
    · rw [leavesAt, leavesAt, Nat.add_assoc, ih]
    · rw [leavesAt, leavesAt, Nat.add_assoc, ih, List.map_cons]
      simp [Leaf.moved, Element.leafAt, Nat.add_assoc]

theorem stop_bounds_of_mem_leavesAt {offset : Nat} {pieces : List Piece} :
    ∀ leaf ∈ leavesAt offset pieces,
      offset < leaf.stop ∧ leaf.stop ≤ offset + octetCount (sourceOf pieces) := by
  induction pieces generalizing offset with
  | nil => exact fun leaf hleaf ↦ absurd hleaf List.not_mem_nil
  | cons piece pieces ih =>
    intro leaf hleaf
    rcases piece with c | found
    · have hroom : octetCount (c :: sourceOf pieces) = c.utf8Size + octetCount (sourceOf pieces) :=
        octetCount_cons c (sourceOf pieces)
      have hlater := ih leaf hleaf
      rw [sourceOf_plain, hroom]
      omega
    · have hpos := found.octetCount_source_pos
      rw [sourceOf_element, octetCount_append]
      rcases List.mem_cons.mp hleaf with rfl | hleaf
      · change offset < offset + octetCount found.source ∧
          offset + octetCount found.source ≤ offset + (octetCount found.source + _)
        omega
      · have hlater := ih leaf hleaf
        omega

theorem lastStop_le {limit start bound : Nat} {found : List Leaf} (hstart : start ≤ bound)
    (hfound : ∀ leaf ∈ found, leaf.stop ≤ limit → leaf.stop ≤ bound) :
    lastStop limit start found ≤ bound := by
  induction found generalizing start with
  | nil => exact hstart
  | cons leaf found ih =>
    rw [lastStop, List.foldl_cons]
    refine ih ?_ fun other hother ↦ hfound other (List.mem_cons_of_mem leaf hother)
    split_ifs with hstop
    · exact hfound leaf List.mem_cons_self hstop
    · exact hstart

/-! ### Cutting at a seam -/

/-- Wherever a text is cut, its pieces divide there, or the cut goes through an element. -/
theorem exists_pieces_or_cut_element {before after : List Char} {pieces : List Piece}
    (h : sourceOf pieces = before ++ after) :
    (∃ first second, pieces = first ++ second ∧ sourceOf first = before ∧
      sourceOf second = after) ∨
    ∃ first found second, pieces = first ++ .element found :: second ∧
      octetCount (sourceOf first) < octetCount before ∧
        octetCount before < octetCount (sourceOf first) + octetCount found.source := by
  induction pieces generalizing before with
  | nil =>
    obtain ⟨rfl, rfl⟩ := List.append_eq_nil_iff.mp h.symm
    exact Or.inl ⟨[], [], rfl, rfl, rfl⟩
  | cons piece pieces ih =>
    rcases Nat.eq_zero_or_pos (octetCount before) with hempty | hpos
    · obtain rfl := eq_nil_of_octetCount_eq_zero hempty
      exact Or.inl ⟨[], piece :: pieces, rfl, rfl, h⟩
    by_cases hpiece : octetCount piece.source ≤ octetCount before
    · have hsource : piece.source ++ sourceOf pieces = before ++ after := h
      obtain ⟨between, rfl, hrest⟩ := exists_between_of_append_eq hsource hpiece
      rw [octetCount_append]
      rcases ih hrest with ⟨first, second, rfl, rfl, hsecond⟩ |
        ⟨first, found, second, rfl, hstart, hstop⟩
      · exact Or.inl ⟨piece :: first, second, rfl, rfl, hsecond⟩
      · have hfirst : octetCount (sourceOf (piece :: first)) =
            octetCount piece.source + octetCount (sourceOf first) :=
          octetCount_append piece.source (sourceOf first)
        exact Or.inr ⟨piece :: first, found, second, rfl, by omega, by omega⟩
    · rcases piece with c | found
      · obtain ⟨d, before, rfl⟩ : ∃ d more, before = d :: more := by
          refine List.exists_cons_of_ne_nil ?_
          rintro rfl
          exact absurd hpos (Nat.lt_irrefl 0)
        obtain ⟨rfl, -⟩ := List.cons.inj h
        refine absurd ?_ hpiece
        change octetCount [c] ≤ octetCount (c :: before)
        rw [octetCount_singleton, octetCount_cons]
        exact Nat.le_add_right _ _
      · refine Or.inr ⟨[], found, pieces, rfl, hpos, ?_⟩
        rw [sourceOf_nil, octetCount_nil, Nat.zero_add]
        exact Nat.not_le.mp hpiece

/-- A seam goes through no element, because the element would begin a tag between the last leaf that
has ended there and the seam. -/
theorem exists_pieces_of_seam {before after : List Char} {pieces : List Piece}
    (h : Segmented (before ++ after) pieces)
    (hseam : IsSeam (before ++ after) (octetCount before)) :
    ∃ first second, pieces = first ++ second ∧ sourceOf first = before ∧
      sourceOf second = after := by
  rcases exists_pieces_or_cut_element h.sourceOf_eq with hdivided |
    ⟨first, found, second, rfl, hstart, hstop⟩
  · exact hdivided
  · obtain ⟨gap, hgap, hplain⟩ := hseam
    have hlast : lastStop (octetCount before) 0
        (leavesAt 0 (first ++ .element found :: second)) ≤ octetCount (sourceOf first) := by
      refine lastStop_le (Nat.zero_le _) fun leaf hleaf hended ↦ ?_
      rw [leavesAt_append, leavesAt, Nat.zero_add] at hleaf
      rcases List.mem_append.mp hleaf with hleaf | hleaf
      · have hbounds := stop_bounds_of_mem_leavesAt leaf hleaf
        omega
      · -- Neither the element cut nor any element after it has ended at the seam.
        rcases List.mem_cons.mp hleaf with rfl | hleaf
        · exact absurd hended (Nat.not_le.mpr hstop)
        · have hbounds := stop_bounds_of_mem_leavesAt leaf hleaf
          omega
    rw [h.leaves_eq, ← h.sourceOf_eq, sourceOf_append, sourceOf_element,
      Element.source_append] at hgap
    exact absurd (mem_of_textBetween_eq_some hgap hlast hstart) hplain

end Markup

open Markup

/-- A document cut at a seam has the leaves of its first part and, so much further on, those of its
second, and is laid out as the one and then the other. -/
theorem Style.arrange_append_of_seam (style : Style) (before after : List Char)
    (hseam : IsSeam (before ++ after) (octetCount before)) :
    leaves (before ++ after) =
        leaves before ++ (leaves after).map (·.moved (octetCount before)) ∧
      style.arrange (before ++ after) = style.arrange before ++ style.arrange after := by
  obtain ⟨pieces, hpieces⟩ := exists_segmented (before ++ after)
  obtain ⟨first, second, rfl, rfl, rfl⟩ := exists_pieces_of_seam hpieces hseam
  obtain ⟨hfirst, hsecond⟩ := hpieces.of_append
  constructor
  · rw [hpieces.leaves_eq, hfirst.leaves_eq, hsecond.leaves_eq, leavesAt_append, ← leavesAt_add,
      Nat.zero_add, Nat.add_zero]
  · rw [arrange_eq hpieces, arrange_eq hfirst, arrange_eq hsecond, List.flatMap_append]

/-- A bracket that ends no tag and a close tag without an element may stand at a seam. -/
theorem Style.arrange_append_of_seam_at_bracket :
    let before := "<b>x</b>a>".toList
    let after := "c</b><i> z</i>".toList
    IsSeam (before ++ after) (octetCount before) ∧
      (leaves (before ++ after)).map (·.start) = [0, 15] ∧
        ({} : Style).arrange (before ++ after) =
          "<b>\n  x\n</b>a>c</b><i>\n  z\n</i>".toList := by
  intro before after
  have hseam : IsSeam (before ++ after) (octetCount before) :=
    ⟨"a>".toList, by decide +kernel, by decide⟩
  obtain ⟨hleaves, harrange⟩ := Style.arrange_append_of_seam {} before after hseam
  refine ⟨hseam, ?_, harrange.trans ?_⟩
  · rw [hleaves]
    decide +kernel
  · decide +kernel

end LeafLayout
