import LeafLayout.Proofs.Markup.Segmentation

/-!
The order in which leaves are found. Asking a scan for the next leaf again and again yields, one by
one, the elements of the document from left to right, each the first that begins where the one
before it has ended or later, and nothing once there is none left.
-/

set_option autoImplicit false

namespace LeafLayout.Markup

open Text

/-- A leaf of a document is an element between a text before it, which gives its place, and a text
after it. -/
def IsLeafOf (leaf : Leaf) (document : List Char) : Prop :=
  ∃ (before : List Char) (element : Element) (after : List Char),
    document = before ++ element.source ++ after ∧ leaf = element.leafAt (octetCount before)

/-- The leaves that a greedy reading from left to right picks, from an offset on. -/
def IsLeftmost (document : List Char) : Nat → List Leaf → Prop
  | resume, [] => ∀ leaf, IsLeafOf leaf document → leaf.start < resume
  | resume, leaf :: more =>
    IsLeafOf leaf document ∧ resume ≤ leaf.start ∧
      (∀ other, IsLeafOf other document → resume ≤ other.start → leaf.start ≤ other.start) ∧
        IsLeftmost document leaf.stop more

theorem IsLeafOf.textBetween_eq {leaf : Leaf} {document : List Char}
    (h : IsLeafOf leaf document) :
    textBetween document leaf.start leaf.stop = some leaf.source := by
  obtain ⟨before, element, after, rfl, rfl⟩ := h
  exact textBetween_append before element.source after

theorem IsLeafOf.eq_of_start_eq {first second : Leaf} {document : List Char}
    (hfirst : IsLeafOf first document) (hsecond : IsLeafOf second document)
    (h : first.start = second.start) : first = second := by
  obtain ⟨before, element, after, hdocument, rfl⟩ := hfirst
  obtain ⟨before', element', after', hdocument', rfl⟩ := hsecond
  rw [List.append_assoc] at hdocument hdocument'
  have hplace : (⟨octetCount before, element.source ++ after⟩ : Cursor Char).IsIn document :=
    ⟨before, hdocument, rfl⟩
  have hplace' : (⟨octetCount before', element'.source ++ after'⟩ : Cursor Char).IsIn document :=
    ⟨before', hdocument', rfl⟩
  have heq := hplace.eq_of_offset_eq hplace' h
  obtain ⟨rfl, -⟩ := Element.source_append_inj (congrArg Cursor.rest heq)
  exact congrArg element.leafAt h

/-- Where no element begins, none begins before the next character either. -/
theorem IsLeafOf.start_past {leaf : Leaf} {before text : List Char} {c : Char}
    (h : IsLeafOf leaf (before ++ c :: text)) (hbegins : ¬ BeginsElement (c :: text))
    (hle : octetCount before ≤ leaf.start) : octetCount (before ++ [c]) ≤ leaf.start := by
  obtain ⟨front, element, after, hdocument, rfl⟩ := h
  rw [List.append_assoc] at hdocument
  obtain ⟨between, hfront, hrest⟩ := exists_between_of_append_eq hdocument hle
  rcases between with _ | ⟨d, between⟩
  · exact absurd ⟨element, after, hrest⟩ hbegins
  · obtain ⟨rfl, -⟩ := List.cons.inj hrest
    change octetCount (before ++ [c]) ≤ octetCount front
    rw [hfront, octetCount_append, octetCount_append, octetCount_cons c between,
      octetCount_singleton]
    omega

theorem IsLeftmost.of_later {document : List Char} {resume later : Nat} {found : List Leaf}
    (h : IsLeftmost document later found) (hle : resume ≤ later)
    (hlater : ∀ leaf, IsLeafOf leaf document → resume ≤ leaf.start → later ≤ leaf.start) :
    IsLeftmost document resume found := by
  rcases found with _ | ⟨leaf, found⟩
  · intro leaf hleaf
    by_contra hstart
    exact absurd (h leaf hleaf) (Nat.not_lt.mpr (hlater leaf hleaf (Nat.not_lt.mp hstart)))
  · obtain ⟨hleaf, hstart, hfirst, hmore⟩ := h
    exact ⟨hleaf, Nat.le_trans hle hstart,
      fun other hother hresume ↦ hfirst other hother (hlater other hother hresume), hmore⟩

theorem Segmented.isLeftmost {text : List Char} {pieces : List Piece}
    (h : Segmented text pieces) (before : List Char) :
    IsLeftmost (before ++ text) (octetCount before) (leavesAt (octetCount before) pieces) := by
  induction h generalizing before with
  | done =>
    intro leaf hleaf
    obtain ⟨front, element, after, hdocument, rfl⟩ := hleaf
    have hpos := element.octetCount_source_pos
    have hcount := congrArg octetCount hdocument
    rw [List.append_nil, octetCount_append, octetCount_append] at hcount
    change octetCount front < octetCount before
    omega
  | @plain c text pieces hbegins _ ih =>
    have hmore := ih (before ++ [c])
    have hcount : octetCount (before ++ [c]) = octetCount before + c.utf8Size := by
      rw [octetCount_append, octetCount_singleton]
      rfl
    rw [List.append_assoc] at hmore
    rw [leavesAt, ← hcount]
    exact hmore.of_later (by omega) fun leaf hleaf ↦ hleaf.start_past hbegins
  | @element element text pieces _ ih =>
    have hmore := ih (before ++ element.source)
    rw [octetCount_append] at hmore
    rw [← List.append_assoc, leavesAt]
    exact ⟨⟨before, element, text, rfl, rfl⟩, Nat.le_refl _, fun _ _ hother ↦ hother, hmore⟩

namespace Scanner

/-- One call for the next leaf takes the first of the leaves that the scan would still find. -/
theorem nextFrom_eq (resume : Nat) (searches : Searches) (offset : Nat) (text : List Char) :
    (nextFrom resume searches offset text).1 =
        ((visitsFrom resume searches offset text).filterMap (·.leaf))[0]? ∧
      (nextFrom resume searches offset text).2.leaves =
        ((visitsFrom resume searches offset text).filterMap (·.leaf)).drop 1 := by
  induction text generalizing resume searches offset with
  | nil => exact ⟨rfl, rfl⟩
  | cons c text ih =>
    by_cases hvisit : c = '<' ∧ resume ≤ offset
    · rw [visitsFrom, nextFrom, if_pos hvisit, if_pos hvisit]
      obtain ⟨⟨opening, nameEnd, tagEndProbe, nextTagProbe, leaf⟩, searched⟩ :=
        visit searches ⟨offset, c :: text⟩
      rcases leaf with _ | leaf
      · exact ih resume searched _
      · exact ⟨rfl, rfl⟩
    · rw [visitsFrom, nextFrom, if_neg hvisit, if_neg hvisit]
      exact ih resume searches _

/-- The scan after so many calls for the next leaf. -/
def afterCalls : Nat → Scanner → Scanner
  | 0, scanner => scanner
  | calls + 1, scanner => afterCalls calls scanner.next.2

theorem leaves_afterCalls (calls : Nat) (scanner : Scanner) :
    (scanner.afterCalls calls).leaves = scanner.leaves.drop calls := by
  induction calls generalizing scanner with
  | zero => rfl
  | succ calls ih =>
    have hnext : scanner.next.2.leaves = scanner.leaves.drop 1 := (nextFrom_eq _ _ _ _).2
    rw [afterCalls, ih, hnext, List.drop_drop, Nat.add_comm]

theorem next_afterCalls (calls : Nat) (scanner : Scanner) :
    (scanner.afterCalls calls).next.1 = scanner.leaves[calls]? := by
  have hnext : (scanner.afterCalls calls).next.1 = (scanner.afterCalls calls).leaves[0]? :=
    (nextFrom_eq _ _ _ _).1
  rw [hnext, leaves_afterCalls, List.getElem?_drop, Nat.add_zero]

end Scanner

theorem IsLeftmost.isLeafOf {document : List Char} {resume : Nat} {found : List Leaf}
    (h : IsLeftmost document resume found) : ∀ leaf ∈ found, IsLeafOf leaf document := by
  induction found generalizing resume with
  | nil => exact fun leaf hleaf ↦ absurd hleaf List.not_mem_nil
  | cons first found ih =>
    obtain ⟨hfirst, -, -, hmore⟩ := h
    intro leaf hleaf
    rcases List.mem_cons.mp hleaf with rfl | hleaf
    · exact hfirst
    · exact ih hmore leaf hleaf

theorem isLeafOf_of_mem_leaves {document : List Char} {leaf : Leaf} (h : leaf ∈ leaves document) :
    IsLeafOf leaf document := by
  obtain ⟨pieces, hpieces⟩ := exists_segmented document
  rw [hpieces.leaves_eq] at h
  exact (hpieces.isLeftmost []).isLeafOf leaf h

/-- A document has at most one leaf at an offset. Asked again and again, a scan of it yields the
leaves that a greedy reading from the left picks, each once, in order and with its text, and after
the last of them nothing any more. -/
theorem next_yields_leftmost (document : List Char) :
    (∀ first second, IsLeafOf first document → IsLeafOf second document →
      first.start = second.start → first = second) ∧
    ∃ found : List Leaf, IsLeftmost document 0 found ∧
      (∀ leaf ∈ found, textBetween document leaf.start leaf.stop = some leaf.source) ∧
      ∀ calls, ((Scanner.ofDocument document).afterCalls calls).next.1 = found[calls]? := by
  obtain ⟨pieces, hpieces⟩ := exists_segmented document
  have hleftmost : IsLeftmost document 0 (leaves document) := by
    rw [hpieces.leaves_eq]
    exact hpieces.isLeftmost []
  refine ⟨fun first second hfirst hsecond ↦ hfirst.eq_of_start_eq hsecond,
    leaves document, hleftmost, ?_, ?_⟩
  · exact fun leaf hleaf ↦ (hleftmost.isLeafOf leaf hleaf).textBetween_eq
  · exact fun calls ↦ Scanner.next_afterCalls calls (Scanner.ofDocument document)

end LeafLayout.Markup
