import LeafLayout.Proofs.Markup.Visit

/-!
How a document falls into pieces: single characters and elements, an element wherever one begins
outside those before it. Every document has such a segmentation, and the leaves a scan finds are its
elements at their places. What is said about the elements of a document from here on is said about
pieces, without offsets and without searches.
-/

set_option autoImplicit false

namespace LeafLayout.Markup

open Text

/-- A character outside the elements, or an element. -/
inductive Piece where
  | plain (c : Char)
  | element (found : Element)

def Piece.source : Piece → List Char
  | .plain c => [c]
  | .element found => found.source

def sourceOf (pieces : List Piece) : List Char :=
  pieces.flatMap Piece.source

@[simp] theorem sourceOf_nil : sourceOf [] = [] := rfl

@[simp] theorem sourceOf_plain (c : Char) (pieces : List Piece) :
    sourceOf (.plain c :: pieces) = c :: sourceOf pieces := rfl

@[simp] theorem sourceOf_element (element : Element) (pieces : List Piece) :
    sourceOf (.element element :: pieces) = element.source ++ sourceOf pieces := rfl

def BeginsElement (text : List Char) : Prop :=
  ∃ (element : Element) (rest : List Char), text = element.source ++ rest

/-- The pieces are those of the text: no element begins at a plain character. -/
inductive Segmented : List Char → List Piece → Prop
  | done : Segmented [] []
  | plain {c : Char} {text : List Char} {pieces : List Piece} :
    ¬ BeginsElement (c :: text) → Segmented text pieces →
      Segmented (c :: text) (.plain c :: pieces)
  | element {element : Element} {text : List Char} {pieces : List Piece} :
    Segmented text pieces → Segmented (element.source ++ text) (.element element :: pieces)

theorem Segmented.sourceOf_eq {text : List Char} {pieces : List Piece}
    (h : Segmented text pieces) : sourceOf pieces = text := by
  induction h with
  | done => rfl
  | plain _ _ ih => rw [sourceOf_plain, ih]
  | element _ ih => rw [sourceOf_element, ih]

theorem exists_segmented (text : List Char) : ∃ pieces, Segmented text pieces := by
  induction hlength : text.length using Nat.strong_induction_on generalizing text with
  | _ length ih =>
    subst hlength
    by_cases hbegins : BeginsElement text
    · obtain ⟨element, rest, rfl⟩ := hbegins
      have hshorter : rest.length < (element.source ++ rest).length := by
        rw [List.length_append]
        exact Nat.lt_add_of_pos_left (List.length_pos_iff.mpr element.source_ne_nil)
      obtain ⟨pieces, hpieces⟩ := ih _ hshorter rest rfl
      exact ⟨_, hpieces.element⟩
    · rcases text with _ | ⟨c, text⟩
      · exact ⟨[], .done⟩
      · obtain ⟨pieces, hpieces⟩ := ih _ (Nat.lt_succ_self _) text rfl
        exact ⟨_, hpieces.plain hbegins⟩

/-- A text falls into pieces in one way only. -/
theorem Segmented.unique {text : List Char} {pieces others : List Piece}
    (h : Segmented text pieces) (hothers : Segmented text others) : pieces = others := by
  -- Where an element begins both take it, because neither may take a plain character there.
  induction h generalizing others with
  | done =>
    generalize hwhole : ([] : List Char) = whole at hothers
    cases hothers with
    | done => rfl
    | plain => cases hwhole
    | @element element =>
      exact absurd (List.append_eq_nil_iff.mp hwhole.symm).1 element.source_ne_nil
  | @plain c text pieces hbegins _ ih =>
    generalize hwhole : c :: text = whole at hothers
    cases hothers with
    | done => cases hwhole
    | plain _ hrest =>
      obtain ⟨rfl, rfl⟩ := List.cons.inj hwhole
      rw [ih hrest]
    | @element element rest => exact absurd ⟨element, rest, hwhole⟩ hbegins
  | @element element text pieces _ ih =>
    generalize hwhole : element.source ++ text = whole at hothers
    cases hothers with
    | done => exact absurd (List.append_eq_nil_iff.mp hwhole).1 element.source_ne_nil
    | plain hbegins => exact absurd ⟨element, text, hwhole.symm⟩ hbegins
    | element hrest =>
      obtain ⟨rfl, rfl⟩ := Element.source_append_inj hwhole
      rw [ih hrest]

/-- The elements among the pieces, each at its place, when the first piece begins at an offset. -/
def leavesAt : Nat → List Piece → List Leaf
  | _, [] => []
  | offset, .plain c :: pieces => leavesAt (offset + c.utf8Size) pieces
  | offset, .element element :: pieces =>
    element.leafAt offset :: leavesAt (offset + octetCount element.source) pieces

/-- A leaf is one of the elements, and the pieces before it lead to its place. -/
theorem exists_append_of_mem_leavesAt {leaf : Leaf} {offset : Nat} {pieces : List Piece}
    (h : leaf ∈ leavesAt offset pieces) :
    ∃ first found second, pieces = first ++ .element found :: second ∧
      leaf = found.leafAt (offset + octetCount (sourceOf first)) := by
  induction pieces generalizing offset with
  | nil => exact absurd h List.not_mem_nil
  | cons piece pieces ih =>
    rcases piece with c | element
    · obtain ⟨first, found, second, rfl, rfl⟩ := ih h
      have hroom : octetCount (c :: sourceOf first) = c.utf8Size + octetCount (sourceOf first) :=
        octetCount_cons c (sourceOf first)
      refine ⟨.plain c :: first, found, second, rfl, ?_⟩
      rw [sourceOf_plain, hroom, Nat.add_assoc]
    · rcases List.mem_cons.mp h with rfl | hlater
      · exact ⟨[], element, pieces, rfl, rfl⟩
      · obtain ⟨first, found, second, rfl, rfl⟩ := ih hlater
        refine ⟨.element element :: first, found, second, rfl, ?_⟩
        rw [sourceOf_element, octetCount_append, Nat.add_assoc]

namespace Scanner

/-- Inside the leaf found last nothing is visited. -/
theorem visitsFrom_append_of_lt_resume (resume : Nat) (searches : Searches) (offset : Nat)
    (passed rest : List Char) (hresume : offset + octetCount passed ≤ resume) :
    visitsFrom resume searches offset (passed ++ rest) =
      visitsFrom resume searches (offset + octetCount passed) rest := by
  induction passed generalizing offset with
  | nil => rfl
  | cons c passed ih =>
    have hroom : octetCount (c :: passed) = c.utf8Size + octetCount passed :=
      octetCount_cons c passed
    have hpos := c.utf8Size_pos
    rw [hroom] at hresume ⊢
    rw [List.cons_append, visitsFrom, if_neg (by omega), ih _ (by omega), Nat.add_assoc]

theorem filterMap_leaf_visitsFrom {document text : List Char} {pieces : List Piece}
    (h : Segmented text pieces) {resume offset : Nat} {searches : Searches}
    (hresume : resume ≤ offset) (hsearches : searches.Recall document)
    (hplace : (⟨offset, text⟩ : Cursor Char).IsIn document) :
    (visitsFrom resume searches offset text).filterMap (·.leaf) = leavesAt offset pieces := by
  induction h generalizing resume offset searches with
  | done => rfl
  | @plain c text pieces hbegins _ ih =>
    have hrest := hplace.next
    by_cases hc : c = '<'
    · subst hc
      have hleaf : (visit searches ⟨offset, '<' :: text⟩).1.leaf = none := by
        refine Option.eq_none_iff_forall_ne_some.mpr fun leaf hleaf ↦ hbegins ?_
        obtain ⟨element, after, hsource, -⟩ :=
          (leaf_visit_eq_some_iff hsearches hplace leaf).mp hleaf
        exact ⟨element, after, hsource⟩
      simp only [visitsFrom, hresume, and_self, if_true, List.filterMap_cons, hleaf,
        Option.elim_none]
      exact ih (by omega) (hsearches.visit hplace) hrest
    · rw [visitsFrom, if_neg fun hvisit ↦ hc hvisit.1]
      exact ih (by omega) hsearches hrest
  | @element element text pieces _ ih =>
    obtain ⟨inside, hinside⟩ : ∃ inside, element.source = '<' :: inside := ⟨_, rfl⟩
    have hrest := hplace.advance (show element.source ++ text = element.source ++ text from rfl)
    have hleaf : (visit searches ⟨offset, '<' :: (inside ++ text)⟩).1.leaf =
        some (element.leafAt offset) := by
      rw [hinside] at hplace
      exact (leaf_visit_eq_some_iff hsearches hplace _).mpr
        ⟨element, text, by rw [hinside]; rfl, rfl⟩
    have hroom : octetCount element.source = '<'.utf8Size + octetCount inside := by
      rw [hinside]
      exact octetCount_cons '<' inside
    have hsearched := hsearches.visit (hinside ▸ hplace)
    rw [hinside, List.cons_append]
    simp only [visitsFrom, hresume, and_self, if_true, List.filterMap_cons, hleaf,
      Option.elim_some, leavesAt]
    have hinner : offset + '<'.utf8Size + octetCount inside ≤ (element.leafAt offset).stop := by
      change _ ≤ offset + octetCount element.source
      omega
    rw [visitsFrom_append_of_lt_resume _ _ _ inside text hinner, Nat.add_assoc, ← hroom]
    exact congrArg (element.leafAt offset :: ·) (ih (Nat.le_refl _) hsearched hrest)

end Scanner

/-- The leaves of a document are the elements among its pieces. -/
theorem Segmented.leaves_eq {document : List Char} {pieces : List Piece}
    (h : Segmented document pieces) : leaves document = leavesAt 0 pieces :=
  Scanner.filterMap_leaf_visitsFrom h (Nat.le_refl 0) (Searches.recall_fresh document)
    (Cursor.start_isIn document)

end LeafLayout.Markup
