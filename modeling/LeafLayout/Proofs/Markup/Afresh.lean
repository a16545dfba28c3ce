import LeafLayout.Proofs.Markup.Leftmost
import LeafLayout.Proofs.Text.Answers

/-!
A scan without memory. At every opening bracket it looks anew for the end of the tag and for the
start of the next one. Since a search that remembers answers as one that looks, the leaves it finds
are those of a scan with searches that are kept from visit to visit.
-/

set_option autoImplicit false

namespace LeafLayout.Markup

open Text

/-- The leaf at an opening bracket, with both ends of the region looked for in the text. -/
def leafAfresh? (opening : Cursor Char) : Option Leaf :=
  let inside := opening.next
  if inside.rest.head?.any beginsName then
    ((inside.pass belongsToName).seek '>').bind fun tagEnd ↦
      (tagEnd.next.seek '<').bind fun nextTag ↦ leafBetween? inside tagEnd nextTag
  else none

def leavesAfreshFrom (resume offset : Nat) : List Char → List Leaf
  | [] => []
  | c :: rest =>
    if c = '<' ∧ resume ≤ offset then
      match leafAfresh? ⟨offset, c :: rest⟩ with
      | some leaf => leaf :: leavesAfreshFrom leaf.stop (offset + c.utf8Size) rest
      | none => leavesAfreshFrom resume (offset + c.utf8Size) rest
    else leavesAfreshFrom resume (offset + c.utf8Size) rest

/-- The leaves of a document by a scan without memory. -/
def leavesAfresh (document : List Char) : List Leaf :=
  leavesAfreshFrom 0 0 document

theorem leaf_visit_eq_leafAfresh? {searches : Searches} {document : List Char}
    (hsearches : searches.Recall document) {opening : Cursor Char}
    (hopening : opening.IsIn document) :
    (visit searches opening).1.leaf = leafAfresh? opening := by
  rw [leaf_visit_eq hsearches hopening, leafAfresh?,
    Cursor.seek_pass opening.next belongsToName_tagEnd]

/-- Visit by visit the two scans find the same, because a visit leaves searches that recall the
document. -/
theorem filterMap_leaf_visitsFrom_eq {document text : List Char} {offset : Nat}
    (hplace : (⟨offset, text⟩ : Cursor Char).IsIn document) {searches : Searches}
    (hsearches : searches.Recall document) (resume : Nat) :
    (Scanner.visitsFrom resume searches offset text).filterMap (·.leaf) =
      leavesAfreshFrom resume offset text := by
  induction text generalizing resume searches offset with
  | nil => rfl
  | cons c text ih =>
    have hrest := hplace.next
    by_cases hvisit : c = '<' ∧ resume ≤ offset
    · have hleaf := leaf_visit_eq_leafAfresh? hsearches hplace
      have hlater := ih hrest (hsearches.visit hplace)
      rw [Scanner.visitsFrom, leavesAfreshFrom, if_pos hvisit, if_pos hvisit, ← hleaf]
      cases hfound : (visit searches ⟨offset, c :: text⟩).1.leaf with
      | none =>
        rw [List.filterMap_cons, hfound]
        exact hlater resume
      | some leaf =>
        rw [List.filterMap_cons, hfound]
        exact congrArg (leaf :: ·) (hlater leaf.stop)
    · rw [Scanner.visitsFrom, leavesAfreshFrom, if_neg hvisit, if_neg hvisit]
      exact ih hrest hsearches resume

theorem leaves_eq_leavesAfresh (document : List Char) : leaves document = leavesAfresh document :=
  filterMap_leaf_visitsFrom_eq (Cursor.start_isIn document) (Searches.recall_fresh document) 0

/-- A search for an octet, asked from any offsets in any order, answers each time with the first
place from there on where the octet stands, or with none if there is none. A scan whose searches
remember yields call by call what a scan without memory finds. -/
theorem next_eq_leavesAfresh :
    (∀ (text : List UInt8) (octet : UInt8) (offsets : List Nat),
      List.Forall₂ (IsFirstFrom text octet) offsets
        (({} : Search UInt8).answers text octet offsets)) ∧
    ∀ (document : List Char) (calls : Nat),
      ((Scanner.ofDocument document).afterCalls calls).next.1 =
        (leavesAfresh document)[calls]? := by
  refine ⟨fun text octet ↦ (Search.knows_fresh text octet).answers, fun document calls ↦ ?_⟩
  rw [Scanner.next_afterCalls, ← leaves_eq_leavesAfresh]
  rfl

end LeafLayout.Markup
