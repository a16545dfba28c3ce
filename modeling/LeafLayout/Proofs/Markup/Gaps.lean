import LeafLayout.Proofs.Markup.Refilling

/-!
The text outside the leaves of a document: before the first, between one and the next, after the
last. It is cut out at the offsets the leaves say, and what is cut out are the runs of plain
characters among the pieces, which do not change when elements are refilled.
-/

set_option autoImplicit false

namespace LeafLayout.Markup

open Text

/-- What stands between leaves, from an offset on. -/
def gapsFrom (document : List Char) : Nat → List Leaf → List (Option (List Char))
  | start, [] => [textBetween document start (octetCount document)]
  | start, leaf :: more =>
    textBetween document start leaf.start :: gapsFrom document leaf.stop more

/-- What stands outside the leaves of a document. -/
def gaps (document : List Char) : List (Option (List Char)) :=
  gapsFrom document 0 (leaves document)

/-- The runs of plain characters around elements, the first of which has begun already. -/
def plainRuns : List Char → List Piece → List (List Char)
  | begun, [] => [begun]
  | begun, .plain c :: pieces => plainRuns (begun ++ [c]) pieces
  | begun, .element _ :: pieces => begun :: plainRuns [] pieces

theorem gapsFrom_leavesAt (before begun : List Char) (pieces : List Piece) :
    gapsFrom (before ++ (begun ++ sourceOf pieces)) (octetCount before)
        (leavesAt (octetCount before + octetCount begun) pieces) =
      (plainRuns begun pieces).map some := by
  induction pieces generalizing before begun with
  | nil =>
    have hlast := textBetween_append before begun []
    rw [List.append_nil, ← octetCount_append] at hlast
    rw [sourceOf_nil, List.append_nil, leavesAt, gapsFrom, hlast]
    rfl
  | cons piece pieces ih =>
    rcases piece with c | found
    · have hlonger := ih before (begun ++ [c])
      rw [octetCount_append, octetCount_singleton, List.append_assoc, ← Nat.add_assoc] at hlonger
      exact hlonger
    · have hgap := textBetween_append before begun (found.source ++ sourceOf pieces)
      have hmore := ih (before ++ (begun ++ found.source)) []
      rw [octetCount_nil, Nat.add_zero, List.nil_append, List.append_assoc, List.append_assoc,
        octetCount_append, octetCount_append, ← Nat.add_assoc] at hmore
      rw [List.append_assoc] at hgap
      rw [sourceOf_element, leavesAt, gapsFrom, plainRuns, List.map_cons]
      exact congrArg₂ List.cons hgap hmore

theorem Segmented.gaps_eq {document : List Char} {pieces : List Piece}
    (h : Segmented document pieces) : gaps document = (plainRuns [] pieces).map some := by
  have hgaps := gapsFrom_leavesAt [] [] pieces
  rw [List.nil_append, List.nil_append, h.sourceOf_eq] at hgaps
  rw [gaps, h.leaves_eq]
  exact hgaps

theorem Refilled.plainRuns_eq {pieces others : List Piece} (h : Refilled pieces others)
    (begun : List Char) : plainRuns begun others = plainRuns begun pieces := by
  induction h generalizing begun with
  | nil => rfl
  | plain c _ ih => exact ih (begun ++ [c])
  | element _ _ _ ih => exact congrArg (begun :: ·) (ih [])

end LeafLayout.Markup
