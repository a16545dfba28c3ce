import LeafLayout.Proofs.Markup.Leftmost
import LeafLayout.Proofs.Text.Probes

/-!
The progress of a scan. It visits the opening brackets of a document from left to right. A name ends
before the next bracket stands, so that the places from which a visit asks for the end of the tag,
and for the next tag behind it, are never further back than those of the visits before. However
often it is asked for the next leaf, a scan therefore goes through the text once for each of its two
searches, and once for all the names.
-/

set_option autoImplicit false

namespace LeafLayout.Markup

open Text

/-! ### What a visit asks -/

/-- The end of the name behind an opening bracket, if there is one. From there the end of the tag is
asked for. -/
def nameEnd? (opening : Cursor Char) : Option (Cursor Char) :=
  if opening.next.rest.head?.any beginsName then some (opening.next.pass belongsToName) else none

/-- The place behind the end of the tag, if there is one. From there the next tag is asked for. -/
def tagBehind? (opening : Cursor Char) : Option (Cursor Char) :=
  (nameEnd? opening).bind fun nameEnd ↦ (nameEnd.seek '>').map Cursor.next

/-- The octets of the name behind an opening bracket. -/
def nameOctetsAt (opening : Cursor Char) : Finset Nat :=
  (nameEnd? opening).elim ∅ fun nameEnd ↦ Finset.Ico (opening.offset + 1) nameEnd.offset

/-- The octets of the name that a visit has read. -/
def Visit.nameOctets (record : Visit) : Finset Nat :=
  record.nameEnd.elim ∅ (Finset.Ico (record.opening + 1))

/-- What a visit reads and asks is settled by the bracket alone. What it leaves to the searches is
what they were asked. -/
theorem visit_asks {searches : Searches} {document : List Char} {opening : Cursor Char}
    (hsearches : searches.Recall document) (hopening : opening.IsIn document) :
    (visit searches opening).1.nameOctets = nameOctetsAt opening ∧
      ((visit searches opening).1.tagEndProbe =
          (nameEnd? opening).map (searches.tagEnd.probe '>') ∧
        (visit searches opening).2.tagEnd =
          (nameEnd? opening).elim searches.tagEnd (searches.tagEnd.ask '>')) ∧
      ((visit searches opening).1.nextTagProbe =
          (tagBehind? opening).map (searches.nextTag.probe '<') ∧
        (visit searches opening).2.nextTag =
          (tagBehind? opening).elim searches.nextTag (searches.nextTag.ask '<')) := by
  have hanswer := hsearches.1.answer_ask (hopening.next.pass belongsToName)
  simp only [visit, Search.inquire_eq, nameOctetsAt, tagBehind?, nameEnd?]
  split_ifs
  · rw [Option.bind_some, ← hanswer]
    cases (searches.tagEnd.ask '>' (opening.next.pass belongsToName)).answer with
    | none => exact ⟨rfl, ⟨rfl, rfl⟩, rfl, rfl⟩
    | some tagEnd =>
      dsimp only
      cases (searches.nextTag.ask '<' tagEnd.next).answer with
      | none => exact ⟨rfl, ⟨rfl, rfl⟩, rfl, rfl⟩
      | some nextTag => exact ⟨rfl, ⟨rfl, rfl⟩, rfl, rfl⟩
  · exact ⟨rfl, ⟨rfl, rfl⟩, rfl, rfl⟩

/-! ### Visits from bracket to bracket -/

/-- The visits to some opening brackets, one after the other. -/
def visitsTo : Searches → List (Cursor Char) → List Visit
  | _, [] => []
  | searches, opening :: more =>
    (visit searches opening).1 :: visitsTo (visit searches opening).2 more

/-- Opening brackets of a document, from left to right. -/
structure AreOpenings (document : List Char) (openings : List (Cursor Char)) : Prop where
  isIn : ∀ opening ∈ openings, opening.IsIn document
  bracket : ∀ opening ∈ openings, ∃ inside, opening.rest = '<' :: inside
  onwards : openings.Pairwise fun earlier later ↦ earlier.offset < later.offset

theorem areOpenings_nil (document : List Char) : AreOpenings document [] where
  isIn := fun _ hopening ↦ absurd hopening List.not_mem_nil
  bracket := fun _ hopening ↦ absurd hopening List.not_mem_nil
  onwards := List.Pairwise.nil

theorem AreOpenings.cons {document inside : List Char} {offset : Nat}
    {openings : List (Cursor Char)} (h : AreOpenings document openings)
    (hopening : (⟨offset, '<' :: inside⟩ : Cursor Char).IsIn document)
    (hahead : ∀ later ∈ openings, offset < later.offset) :
    AreOpenings document (⟨offset, '<' :: inside⟩ :: openings) where
  isIn := List.forall_mem_cons.mpr ⟨hopening, h.isIn⟩
  bracket := List.forall_mem_cons.mpr ⟨⟨inside, rfl⟩, h.bracket⟩
  onwards := List.pairwise_cons.mpr ⟨hahead, h.onwards⟩

/-- A scan visits opening brackets from left to right. -/
theorem exists_visitsTo_eq {document text : List Char} {offset : Nat}
    (hplace : (⟨offset, text⟩ : Cursor Char).IsIn document) (resume : Nat) (searches : Searches) :
    ∃ openings, AreOpenings document openings ∧ (∀ opening ∈ openings, offset ≤ opening.offset) ∧
      Scanner.visitsFrom resume searches offset text = visitsTo searches openings := by
  induction text generalizing offset resume searches with
  | nil => exact ⟨[], areOpenings_nil document, fun _ h ↦ absurd h List.not_mem_nil, rfl⟩
  | cons c text ih =>
    have hpos := c.utf8Size_pos
    by_cases hvisit : c = '<' ∧ resume ≤ offset
    · rw [Scanner.visitsFrom, if_pos hvisit]
      obtain ⟨rfl, -⟩ := hvisit
      obtain ⟨openings, hopenings, hahead, hvisits⟩ := ih hplace.next
        ((visit searches ⟨offset, '<' :: text⟩).1.leaf.elim resume (·.stop))
        (visit searches ⟨offset, '<' :: text⟩).2
      change ∀ opening ∈ openings, offset + '<'.utf8Size ≤ opening.offset at hahead
      have hlater : ∀ opening ∈ openings, offset < opening.offset := by
        intro opening hopening
        have hle := hahead opening hopening
        omega
      refine ⟨⟨offset, '<' :: text⟩ :: openings, hopenings.cons hplace hlater, ?_, ?_⟩
      · exact List.forall_mem_cons.mpr
          ⟨Nat.le_refl offset, fun opening hopening ↦ Nat.le_of_lt (hlater opening hopening)⟩
      · exact congrArg ((visit searches ⟨offset, '<' :: text⟩).1 :: ·) hvisits
    · rw [Scanner.visitsFrom, if_neg hvisit]
      obtain ⟨openings, hopenings, hahead, hvisits⟩ := ih hplace.next resume searches
      refine ⟨openings, hopenings, fun opening hopening ↦ ?_, hvisits⟩
      exact Nat.le_trans (Nat.le_add_right _ _) (hahead opening hopening)

/-- One of the two searches is asked from the places that the brackets say. -/
theorem filterMap_visitsTo {document : List Char} {target : Char}
    (search : Searches → Search Char) {asked : Visit → Option Probe}
    {place? : Cursor Char → Option (Cursor Char)}
    (hvisit : ∀ (searches : Searches) (opening : Cursor Char),
      searches.Recall document → opening.IsIn document →
        asked (visit searches opening).1 = (place? opening).map ((search searches).probe target) ∧
        search (visit searches opening).2 =
          (place? opening).elim (search searches) ((search searches).ask target))
    {searches : Searches} (hsearches : searches.Recall document) {openings : List (Cursor Char)}
    (hopenings : ∀ opening ∈ openings, opening.IsIn document) :
    (visitsTo searches openings).filterMap asked =
      (search searches).probes target (openings.filterMap place?) := by
  induction openings generalizing searches with
  | nil => rfl
  | cons opening openings ih =>
    obtain ⟨hopening, hmore⟩ := List.forall_mem_cons.mp hopenings
    obtain ⟨hasked, hsearched⟩ := hvisit searches opening hsearches hopening
    have hrest := ih (hsearches.visit hopening) hmore
    rw [hsearched] at hrest
    rw [visitsTo, List.filterMap_cons, List.filterMap_cons, hasked]
    cases hplace : place? opening with
    | none =>
      rw [hplace] at hrest
      exact hrest
    | some place =>
      rw [hplace] at hrest
      exact congrArg ((search searches).probe target place :: ·) hrest

theorem map_nameOctets_visitsTo {document : List Char} {searches : Searches}
    (hsearches : searches.Recall document) {openings : List (Cursor Char)}
    (hopenings : ∀ opening ∈ openings, opening.IsIn document) :
    (visitsTo searches openings).map Visit.nameOctets = openings.map nameOctetsAt := by
  induction openings generalizing searches with
  | nil => rfl
  | cons opening openings ih =>
    obtain ⟨hopening, hmore⟩ := List.forall_mem_cons.mp hopenings
    rw [visitsTo, List.map_cons, List.map_cons, (visit_asks hsearches hopening).1,
      ih (hsearches.visit hopening) hmore]

/-! ### The order of the places -/

section Order

variable {document : List Char} {opening earlier later place : Cursor Char}
  {openings : List (Cursor Char)}

theorem isIn_of_nameEnd?_eq_some (hopening : opening.IsIn document)
    (h : nameEnd? opening = some place) : place.IsIn document := by
  rw [nameEnd?] at h
  split_ifs at h
  rw [← Option.some.inj h]
  exact hopening.next.pass belongsToName

theorem opening_le_of_nameEnd?_eq_some (h : nameEnd? opening = some place) :
    opening.offset ≤ place.offset := by
  have hnext : opening.offset ≤ opening.next.offset := by
    rw [Cursor.next]
    split
    · exact Nat.le_refl _
    · exact Nat.le_add_right _ _
  rw [nameEnd?] at h
  split_ifs at h
  rw [← Option.some.inj h]
  exact Nat.le_trans hnext (Cursor.offset_le_offset_pass opening.next belongsToName)

theorem exists_of_tagBehind?_eq_some (h : tagBehind? opening = some place) :
    ∃ nameEnd tagEnd, nameEnd? opening = some nameEnd ∧ nameEnd.seek '>' = some tagEnd ∧
      place.offset = tagEnd.offset + 1 := by
  obtain ⟨nameEnd, hnameEnd, hrest⟩ := Option.bind_eq_some_iff.mp h
  obtain ⟨tagEnd, htagEnd, rfl⟩ := Option.map_eq_some_iff.mp hrest
  exact ⟨nameEnd, tagEnd, hnameEnd, htagEnd, Cursor.offset_next_of_seek_eq_some htagEnd⟩

/-- A name ends before the next opening bracket stands, because no bracket belongs to it. -/
theorem AreOpenings.nameEnd_le (h : AreOpenings document openings) (hearlier : earlier ∈ openings)
    (hlater : later ∈ openings) (hlt : earlier.offset < later.offset)
    (hplace : nameEnd? earlier = some place) : place.offset ≤ later.offset := by
  obtain ⟨inside, hinside⟩ := h.bracket earlier hearlier
  obtain ⟨rest, hrest⟩ := h.bracket later hlater
  rw [nameEnd?] at hplace
  split_ifs at hplace
  rw [← Option.some.inj hplace]
  apply (h.isIn earlier hearlier).next.offset_pass_le (h.isIn later hlater) _ hrest
    belongsToName_tagStart
  rw [Cursor.next, hinside]
  exact hlt

theorem AreOpenings.pairwise_nameEnd? (h : AreOpenings document openings) :
    (openings.filterMap nameEnd?).Pairwise fun earlier later ↦ earlier.offset ≤ later.offset := by
  rw [List.pairwise_filterMap]
  refine h.onwards.imp_of_mem ?_
  intro earlier later hearlier hlater hlt place hplace place' hplace'
  calc place.offset
      ≤ later.offset := h.nameEnd_le hearlier hlater hlt hplace
    _ ≤ place'.offset := opening_le_of_nameEnd?_eq_some hplace'

theorem AreOpenings.pairwise_tagBehind? (h : AreOpenings document openings) :
    (openings.filterMap tagBehind?).Pairwise fun earlier later ↦
      earlier.offset ≤ later.offset := by
  rw [List.pairwise_filterMap]
  refine h.onwards.imp_of_mem ?_
  intro earlier later hearlier hlater hlt place hplace place' hplace'
  obtain ⟨nameEnd, tagEnd, hnameEnd, htagEnd, hoffset⟩ := exists_of_tagBehind?_eq_some hplace
  obtain ⟨nameEnd', tagEnd', hnameEnd', htagEnd', hoffset'⟩ := exists_of_tagBehind?_eq_some hplace'
  have hnames : nameEnd.offset ≤ nameEnd'.offset :=
    Nat.le_trans (h.nameEnd_le hearlier hlater hlt hnameEnd)
      (opening_le_of_nameEnd?_eq_some hnameEnd')
  have htags : tagEnd.offset ≤ tagEnd'.offset :=
    Search.offset_le_of_seek_of_seek (isIn_of_nameEnd?_eq_some (h.isIn earlier hearlier) hnameEnd)
      (isIn_of_nameEnd?_eq_some (h.isIn later hlater) hnameEnd') hnames htagEnd htagEnd'
  omega

theorem AreOpenings.pairwise_disjoint_nameOctetsAt (h : AreOpenings document openings) :
    (openings.map nameOctetsAt).Pairwise Disjoint := by
  rw [List.pairwise_map]
  refine h.onwards.imp_of_mem ?_
  intro earlier later hearlier hlater hlt
  rw [nameOctetsAt, nameOctetsAt]
  cases hplace : nameEnd? earlier with
  | none => exact Finset.disjoint_empty_left _
  | some place =>
    cases hplace' : nameEnd? later with
    | none => exact Finset.disjoint_empty_right _
    | some place' =>
      have hends := h.nameEnd_le hearlier hlater hlt hplace
      show Disjoint (Finset.Ico (earlier.offset + 1) place.offset)
        (Finset.Ico (later.offset + 1) place'.offset)
      rw [Finset.disjoint_left]
      intro i hfirst hsecond
      rw [Finset.mem_Ico] at hfirst hsecond
      omega

end Order

/-- Visits go through a document of so many octets once for each of the two searches, and once for
all the names. -/
structure ReadsOnce (size : Nat) (made : List Visit) : Prop where
  tagEnds : LooksOnce size (made.filterMap (·.tagEndProbe))
  nextTags : LooksOnce size (made.filterMap (·.nextTagProbe))
  names : made.Pairwise fun earlier later ↦ Disjoint earlier.nameOctets later.nameOctets

theorem ReadsOnce.sublist {size : Nat} {made part : List Visit} (h : ReadsOnce size made)
    (hpart : part.Sublist made) : ReadsOnce size part where
  tagEnds := h.tagEnds.sublist (hpart.filterMap _)
  nextTags := h.nextTags.sublist (hpart.filterMap _)
  names := h.names.sublist hpart

theorem readsOnce_visits (document : List Char) :
    ReadsOnce (octetCount document) (Scanner.ofDocument document).visits := by
  have hfresh := Searches.recall_fresh document
  obtain ⟨openings, hopenings, -, hvisits⟩ :=
    exists_visitsTo_eq (Cursor.start_isIn document) 0 {}
  have htagEnds := filterMap_visitsTo Searches.tagEnd
    (fun _ _ hsearches hopening ↦ (visit_asks hsearches hopening).2.1) hfresh hopenings.isIn
  have hnextTags := filterMap_visitsTo Searches.nextTag
    (fun _ _ hsearches hopening ↦ (visit_asks hsearches hopening).2.2) hfresh hopenings.isIn
  change (Scanner.ofDocument document).visits = visitsTo {} openings at hvisits
  rw [hvisits]
  constructor
  case tagEnds =>
    rw [htagEnds]
    exact Search.looksOnce_probes _ _ _ hopenings.pairwise_nameEnd?
  case nextTags =>
    rw [hnextTags]
    exact Search.looksOnce_probes _ _ _ hopenings.pairwise_tagBehind?
  case names =>
    rw [← List.pairwise_map, map_nameOctets_visitsTo hfresh hopenings.isIn]
    exact hopenings.pairwise_disjoint_nameOctetsAt

/-! ### Calls for the next leaf -/

namespace Scanner

/-- The visits of one call for the next leaf, up to that which finds it. -/
def visitsToNextFrom (resume : Nat) (searches : Searches) (offset : Nat) :
    List Char → List Visit
  | [] => []
  | c :: rest =>
    if c = '<' ∧ resume ≤ offset then
      match visit searches ⟨offset, c :: rest⟩ with
      | (record@{ leaf := some _, .. }, _) => [record]
      | (record, searches) =>
        record :: visitsToNextFrom resume searches (offset + c.utf8Size) rest
    else visitsToNextFrom resume searches (offset + c.utf8Size) rest

def visitsToNext (scanner : Scanner) : List Visit :=
  visitsToNextFrom scanner.resume scanner.searches scanner.place.offset scanner.place.rest

/-- The visits while so many times the next leaf is asked for. -/
def visitsInCalls : Nat → Scanner → List Visit
  | 0, _ => []
  | calls + 1, scanner => scanner.visitsToNext ++ visitsInCalls calls scanner.next.2

theorem visitsFrom_eq (resume : Nat) (searches : Searches) (offset : Nat) (text : List Char) :
    visitsFrom resume searches offset text =
      visitsToNextFrom resume searches offset text ++
        (nextFrom resume searches offset text).2.visits := by
  induction text generalizing resume searches offset with
  | nil => rfl
  | cons c text ih =>
    by_cases hvisit : c = '<' ∧ resume ≤ offset
    · rw [visitsFrom, visitsToNextFrom, nextFrom, if_pos hvisit, if_pos hvisit, if_pos hvisit]
      obtain ⟨⟨opening, nameEnd, tagEndProbe, nextTagProbe, leaf⟩, searched⟩ :=
        visit searches ⟨offset, c :: text⟩
      rcases leaf with _ | leaf
      · exact congrArg (_ :: ·) (ih resume searched _)
      · rfl
    · rw [visitsFrom, visitsToNextFrom, nextFrom, if_neg hvisit, if_neg hvisit, if_neg hvisit]
      exact ih resume searches _

/-- The visits that a scan has ahead are made in the calls or still ahead after them. -/
theorem visits_eq (calls : Nat) (scanner : Scanner) :
    scanner.visits = scanner.visitsInCalls calls ++ (scanner.afterCalls calls).visits := by
  induction calls generalizing scanner with
  | zero => rfl
  | succ calls ih =>
    calc scanner.visits
        = scanner.visitsToNext ++ scanner.next.2.visits := visitsFrom_eq _ _ _ _
      _ = scanner.visitsToNext ++ (scanner.next.2.visitsInCalls calls ++
            (scanner.next.2.afterCalls calls).visits) := by rw [← ih]
      _ = scanner.visitsInCalls (calls + 1) ++ (scanner.afterCalls (calls + 1)).visits :=
          (List.append_assoc _ _ _).symm

/-- The visits made in the calls find the leaves that the calls yield. -/
theorem filterMap_leaf_visitsInCalls (calls : Nat) (scanner : Scanner) :
    (scanner.visitsInCalls calls).filterMap (·.leaf) = scanner.leaves.take calls := by
  have hvisits := congrArg (List.filterMap (·.leaf)) (visits_eq calls scanner)
  rw [List.filterMap_append] at hvisits
  change scanner.leaves = _ ++ (scanner.afterCalls calls).leaves at hvisits
  rw [leaves_afterCalls] at hvisits
  apply List.append_cancel_right
  calc (scanner.visitsInCalls calls).filterMap (·.leaf) ++ scanner.leaves.drop calls
      = scanner.leaves := hvisits.symm
    _ = scanner.leaves.take calls ++ scanner.leaves.drop calls :=
        (List.take_append_drop calls scanner.leaves).symm

end Scanner

/-- However often a scan is asked for the next leaf, the visits that it makes find just the leaves
it yields. The places from which they ask one of its searches are further and further on, so that
the search goes through the document once, and no octet belongs to the names that two visits
read. -/
theorem visitsInCalls_look_once (document : List Char) (calls : Nat) :
    ((Scanner.ofDocument document).visitsInCalls calls).filterMap (·.leaf) =
        (leaves document).take calls ∧
      ReadsOnce (octetCount document) ((Scanner.ofDocument document).visitsInCalls calls) := by
  have hmade : ((Scanner.ofDocument document).visitsInCalls calls).Sublist
      (Scanner.ofDocument document).visits := by
    rw [Scanner.visits_eq calls]
    exact List.sublist_append_left _ _
  exact ⟨Scanner.filterMap_leaf_visitsInCalls calls (Scanner.ofDocument document),
    (readsOnce_visits document).sublist hmade⟩

end LeafLayout.Markup
