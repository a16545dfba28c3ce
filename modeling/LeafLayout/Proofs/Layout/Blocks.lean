import LeafLayout.Layout
import LeafLayout.Proofs.Markup.Segmentation
import LeafLayout.Proofs.Text.Blanks

/-!
What a layout makes of each piece of a document. A leaf that is laid out keeps its tags and gets a
new region, its shaped text on a line of its own; every other leaf and every character outside the
leaves is written as it is. The layout of a document is that of its pieces, one after the other,
although it is copied in larger parts.
-/

set_option autoImplicit false

namespace LeafLayout.Style

open Text Markup

variable (style : Style)

/-- The region of a leaf that is laid out. -/
def lineRegion (leaf : Leaf) : List Char :=
  '\n' :: style.indent ++ style.shape leaf.text ++ ['\n']

/-- The region of a leaf in the layout. -/
def regionAfter (leaf : Leaf) : List Char :=
  if style.leafBlock? leaf = none then leaf.region else style.lineRegion leaf

def rendered : Piece → List Char
  | .plain c => [c]
  | .element found => (style.leafBlock? (found.leafAt 0)).getD found.source

variable {style}

/-- A block is the leaf with its text on a line of its own, where there is a text to show. -/
theorem leafBlock?_eq (leaf : Leaf) :
    style.leafBlock? leaf =
      if (isContentless leaf.name || isVerbatim leaf.name) = true ∨ style.shape leaf.text = [] then
        none
      else some { leaf with region := style.lineRegion leaf }.source := by
  by_cases hkept : (isContentless leaf.name || isVerbatim leaf.name) = true
  · simp only [leafBlock?, block?, hkept, if_true, true_or]
  · by_cases hempty : style.shape leaf.text = []
    · simp only [leafBlock?, block?, hkept, hempty, List.isEmpty_nil, if_true, or_true]
      rfl
    · rw [if_neg (not_or.mpr ⟨hkept, hempty⟩)]
      simp [leafBlock?, block?, hkept, hempty, Leaf.source, lineRegion]

theorem leafBlock?_eq_none_iff (leaf : Leaf) :
    style.leafBlock? leaf = none ↔
      (isContentless leaf.name || isVerbatim leaf.name) = true ∨ style.shape leaf.text = [] := by
  rw [leafBlock?_eq]
  split_ifs with hkept
  · exact iff_of_true rfl hkept
  · exact iff_of_false not_false hkept

theorem eq_source_of_leafBlock?_eq_some {leaf : Leaf} {block : List Char}
    (h : style.leafBlock? leaf = some block) :
    block = { leaf with region := style.lineRegion leaf }.source := by
  rw [leafBlock?_eq] at h
  split_ifs at h
  exact (Option.some.inj h).symm

/-- Where a leaf stands does not matter to its layout. -/
theorem leafBlock?_leafAt (found : Element) (offset : Nat) :
    style.leafBlock? (found.leafAt offset) = style.leafBlock? (found.leafAt 0) := rfl

theorem arrangeFrom_cons_of_none {copied : Cursor Char} {leaf : Leaf} (more : List Leaf)
    (h : style.leafBlock? leaf = none) :
    style.arrangeFrom copied (leaf :: more) = style.arrangeFrom copied more := by
  rw [arrangeFrom, h]

theorem arrangeFrom_cons_of_some {copied atLeaf afterLeaf : Cursor Char} {leaf : Leaf}
    {block before passed : List Char} (more : List Leaf) (h : style.leafBlock? leaf = some block)
    (hbefore : copied.cutAt? leaf.start = some (before, atLeaf))
    (hpassed : atLeaf.cutAt? leaf.stop = some (passed, afterLeaf)) :
    style.arrangeFrom copied (leaf :: more) =
      before ++ block ++ style.arrangeFrom afterLeaf more := by
  simp only [arrangeFrom, h, hbefore, hpassed]

/-- The cursor of a layout lags behind the pieces laid out by what is still to be copied. -/
theorem arrangeFrom_leavesAt (style : Style) (offset : Nat) (pending : List Char)
    (pieces : List Piece) :
    style.arrangeFrom ⟨offset, pending ++ sourceOf pieces⟩
        (leavesAt (offset + octetCount pending) pieces) =
      pending ++ pieces.flatMap style.rendered := by
  induction pieces generalizing offset pending with
  | nil => rfl
  | cons piece pieces ih =>
    rw [List.flatMap_cons]
    rcases piece with c | found
    · have hpending := ih offset (pending ++ [c])
      rw [octetCount_append, octetCount_singleton, List.append_assoc, List.append_assoc,
        ← Nat.add_assoc] at hpending
      exact hpending
    · rw [sourceOf_element, leavesAt, rendered]
      cases hblock : style.leafBlock? (found.leafAt 0) with
      | none =>
        have hpending := ih offset (pending ++ found.source)
        rw [octetCount_append, List.append_assoc, List.append_assoc, ← Nat.add_assoc] at hpending
        rw [arrangeFrom_cons_of_none _ ((leafBlock?_leafAt found _).trans hblock)]
        exact hpending
      | some block =>
        have hbefore := Cursor.cutAt?_append offset pending (found.source ++ sourceOf pieces)
        have hpassed := Cursor.cutAt?_append (offset + octetCount pending) found.source
          (sourceOf pieces)
        have hmore := ih (offset + octetCount pending + octetCount found.source) []
        rw [List.nil_append, octetCount_nil, Nat.add_zero, List.nil_append] at hmore
        rw [arrangeFrom_cons_of_some _ ((leafBlock?_leafAt found _).trans hblock) hbefore hpassed,
          hmore, List.append_assoc]
        rfl

/-- A document is laid out piece by piece. -/
theorem arrange_eq {document : List Char} {pieces : List Piece} (h : Segmented document pieces) :
    style.arrange document = pieces.flatMap style.rendered := by
  have hpieces := style.arrangeFrom_leavesAt 0 [] pieces
  rw [List.nil_append, h.sourceOf_eq] at hpieces
  rw [arrange, h.leaves_eq]
  exact hpieces

/-! ### Layout from the left -/

theorem arrange_nil : style.arrange [] = [] :=
  arrange_eq .done

theorem arrange_cons {c : Char} {text : List Char} (h : ¬ BeginsElement (c :: text)) :
    style.arrange (c :: text) = c :: style.arrange text := by
  obtain ⟨pieces, hpieces⟩ := exists_segmented text
  rw [arrange_eq hpieces, arrange_eq (hpieces.plain h)]
  rfl

theorem arrange_source_append (element : Element) (text : List Char) :
    style.arrange (element.source ++ text) =
      style.rendered (.element element) ++ style.arrange text := by
  obtain ⟨pieces, hpieces⟩ := exists_segmented text
  rw [arrange_eq hpieces, arrange_eq hpieces.element]
  rfl

theorem arrange_append_of_notMem {plain : List Char} (hplain : '<' ∉ plain) (text : List Char) :
    style.arrange (plain ++ text) = plain ++ style.arrange text := by
  induction plain with
  | nil => rfl
  | cons c plain ih =>
    rw [List.mem_cons, not_or] at hplain
    have hbegins : ¬ BeginsElement (c :: (plain ++ text)) := by
      rintro ⟨element, rest, hsource⟩
      rw [Element.source_append] at hsource
      exact hplain.1 (List.cons.inj hsource).1.symm
    rw [List.cons_append, arrange_cons hbegins, ih hplain.2, List.cons_append]

end LeafLayout.Style
