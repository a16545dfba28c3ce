import LeafLayout.Proofs.Markup.Segmentation

/-!
The cuts that a scan makes into its document. Offsets are counted in octets, and the close tag is
compared octet by octet with the name it may close, so that a cut might go wrong: past the end,
backwards, or through a character. No visit makes such a cut. What it finds between its brackets is
text of the document, and an agreed length is only cut off once the close tag has shown that it is
the length of a name.
-/

set_option autoImplicit false

namespace LeafLayout.Markup

open Text

/-- An offset between two characters of a text, or at one of its ends. -/
def IsEdge (document : List Char) (offset : Nat) : Prop :=
  ∃ rest, (⟨offset, rest⟩ : Cursor Char).IsIn document

/-- A cut goes from one edge of a character to another that is not before it. -/
def IsCut (document : List Char) (start stop : Nat) : Prop :=
  start ≤ stop ∧ IsEdge document start ∧ IsEdge document stop

theorem IsEdge.le {document : List Char} {offset : Nat} (h : IsEdge document offset) :
    offset ≤ octetCount document := by
  obtain ⟨rest, before, rfl, hcount⟩ := h
  rw [octetCount_append, hcount]
  exact Nat.le_add_right _ _

/-- There is a cut between two offsets just when there is a text between them. -/
theorem isCut_iff (document : List Char) (start stop : Nat) :
    IsCut document start stop ↔ ∃ text, textBetween document start stop = some text := by
  constructor
  · rintro ⟨hle, ⟨rest, hstart⟩, ⟨after, hstop⟩⟩
    obtain ⟨text, hrest, hcount⟩ := hstart.exists_between hstop hle
    change stop = start + octetCount text at hcount
    rw [hcount]
    exact ⟨text, hstart.textBetween_eq hrest⟩
  · rintro ⟨text, htext⟩
    obtain ⟨before, after, rfl, rfl, rfl⟩ := (textBetween_eq_some_iff _ _ _ _).mp htext
    exact ⟨Nat.le_add_right _ _, ⟨text ++ after, before, List.append_assoc _ _ _, rfl⟩,
      ⟨after, before ++ text, rfl, octetCount_append before text⟩⟩

namespace Visit

/-- Where the visit has found the end of the tag. -/
def tagEnd? (record : Visit) : Option Nat :=
  record.tagEndProbe.bind (·.found)

/-- Where the visit has found the start of the next tag. -/
def nextTag? (record : Visit) : Option Nat :=
  record.nextTagProbe.bind (·.found)

/-- What a visit cuts out of its document it cuts from edge to edge, and in order. -/
structure CutsWell (document : List Char) (record : Visit) : Prop where
  /-- The text inside the opening bracket. -/
  inside : IsCut document (record.opening + 1) (octetCount document)
  /-- The name as far as it can be read. -/
  full_name : ∀ nameEnd, record.nameEnd = some nameEnd →
    IsCut document (record.opening + 1) nameEnd
  /-- The text behind the slash of the next tag, if there is one. -/
  closing : ∀ nextTag closing, record.nextTag? = some nextTag →
    textBetween document nextTag (octetCount document) = some ('<' :: '/' :: closing) →
      nextTag + 2 ≤ octetCount document ∧
        textBetween document (nextTag + 2) (octetCount document) = some closing
  /-- The length that the text there agrees on with the name. The name can be cut off there, and no
  cut decides any more whether there is a leaf, only the region and the edge of the name. -/
  agreed : ∀ nameEnd tagEnd nextTag fullName closing n, record.nameEnd = some nameEnd →
    record.tagEnd? = some tagEnd → record.nextTag? = some nextTag →
    textBetween document (record.opening + 1) nameEnd = some fullName →
    textBetween document nextTag (octetCount document) = some ('<' :: '/' :: closing) →
    agreedLength? fullName closing = some n →
      0 < n ∧ n ≤ octetCount fullName ∧ IsCut document (record.opening + 1 + n) tagEnd ∧
        IsCut document (tagEnd + 1) nextTag ∧
        ∃ name rest,
          textBetween document (record.opening + 1) (record.opening + 1 + n) = some name ∧
          textBetween document (record.opening + 1 + n) (octetCount document) = some rest ∧
          (record.leaf ≠ none ↔ tagEnd + 1 ≠ nextTag ∧ isWordEdge name rest = true)
  /-- The parts of the leaf. -/
  leaf : ∀ leaf, record.leaf = some leaf → ∃ nameEnd tagEnd nextTag,
    record.tagEnd? = some tagEnd ∧ record.nextTag? = some nextTag ∧ leaf.start = record.opening ∧
      leaf.start + 1 < nameEnd ∧ nameEnd ≤ tagEnd ∧ tagEnd + 1 < nextTag ∧ nextTag < leaf.stop ∧
      leaf.stop ≤ octetCount document ∧
      textBetween document (leaf.start + 1) nameEnd = some leaf.name ∧
      textBetween document nameEnd tagEnd = some leaf.attributes ∧
      textBetween document (tagEnd + 1) nextTag = some leaf.region ∧
      textBetween document leaf.start leaf.stop = some leaf.source

end Visit

/-! ### The brackets a visit finds -/

section Visit

variable {searches : Searches} {document inside : List Char} {offset : Nat}

/-- The record of a visit but for its leaf, with the searches done anew. -/
theorem record_visit_eq (hsearches : searches.Recall document)
    (hopening : (⟨offset, '<' :: inside⟩ : Cursor Char).IsIn document) :
    (visit searches ⟨offset, '<' :: inside⟩).1.opening = offset ∧
      (visit searches ⟨offset, '<' :: inside⟩).1.nameEnd =
        (if inside.head?.any beginsName then
          some (offset + 1 + octetCount (inside.takeWhile belongsToName)) else none) ∧
      (visit searches ⟨offset, '<' :: inside⟩).1.tagEnd? =
        (if inside.head?.any beginsName then
          ((⟨offset + 1, inside⟩ : Cursor Char).seek '>').map (·.offset) else none) ∧
      (visit searches ⟨offset, '<' :: inside⟩).1.nextTag? =
        (if inside.head?.any beginsName then
          ((⟨offset + 1, inside⟩ : Cursor Char).seek '>').bind fun tagEnd ↦
            (tagEnd.next.seek '<').map (·.offset) else none) := by
  have hinside : (⟨offset + 1, inside⟩ : Cursor Char).IsIn document := hopening.next
  have hnext : (⟨offset, '<' :: inside⟩ : Cursor Char).next = ⟨offset + 1, inside⟩ := rfl
  have hnameEnd := hinside.pass belongsToName
  have htagEnds := searches.tagEnd.found_probe '>' ((⟨offset + 1, inside⟩ : Cursor Char).pass
    belongsToName)
  simp only [Visit.tagEnd?, Visit.nextTag?, Markup.visit, Search.inquire_eq, hnext,
    hsearches.1.answer_ask hnameEnd, Cursor.seek_pass ⟨offset + 1, inside⟩ belongsToName_tagEnd]
    at htagEnds ⊢
  split_ifs
  · rw [Cursor.pass_eq] at htagEnds ⊢
    cases htagEnd : (⟨offset + 1, inside⟩ : Cursor Char).seek '>' with
    | none => exact ⟨rfl, rfl, htagEnds.trans (by rw [htagEnd]), rfl⟩
    | some tagEnd =>
      have hnextTags := searches.nextTag.found_probe '<' tagEnd.next
      simp only [htagEnd, hsearches.2.answer_ask (hinside.seek htagEnd).next, Option.bind_some]
        at htagEnds hnextTags ⊢
      cases hnextTag : tagEnd.next.seek '<' with
      | none => exact ⟨rfl, rfl, htagEnds, hnextTags.trans (by rw [hnextTag])⟩
      | some nextTag => exact ⟨rfl, rfl, htagEnds, hnextTags.trans (by rw [hnextTag])⟩
  · exact ⟨rfl, rfl, rfl, rfl⟩

theorem nameEnd_visit (hsearches : searches.Recall document)
    (hopening : (⟨offset, '<' :: inside⟩ : Cursor Char).IsIn document) {nameEnd : Nat}
    (h : (visit searches ⟨offset, '<' :: inside⟩).1.nameEnd = some nameEnd) :
    nameEnd = offset + 1 + octetCount (inside.takeWhile belongsToName) := by
  rw [(record_visit_eq hsearches hopening).2.1] at h
  split_ifs at h
  exact (Option.some.inj h).symm

/-- The two tags that a visit finds divide the text inside the bracket, and its leaf is decided
between them. -/
theorem exists_tags_visit (hsearches : searches.Recall document)
    (hopening : (⟨offset, '<' :: inside⟩ : Cursor Char).IsIn document) {nextTag : Nat}
    (h : (visit searches ⟨offset, '<' :: inside⟩).1.nextTag? = some nextTag) :
    ∃ tag region rest, inside = tag ++ '>' :: (region ++ '<' :: rest) ∧ '>' ∉ tag ∧
      (visit searches ⟨offset, '<' :: inside⟩).1.tagEnd? = some (offset + 1 + octetCount tag) ∧
      nextTag = offset + 1 + octetCount tag + 1 + octetCount region ∧
      (visit searches ⟨offset, '<' :: inside⟩).1.leaf =
        leafBetween? ⟨offset + 1, tag ++ '>' :: (region ++ '<' :: rest)⟩
          ⟨offset + 1 + octetCount tag, '>' :: (region ++ '<' :: rest)⟩
          ⟨offset + 1 + octetCount tag + 1 + octetCount region, '<' :: rest⟩ := by
  obtain ⟨-, -, htagEnd, hnextTag⟩ := record_visit_eq hsearches hopening
  have hnext : (⟨offset, '<' :: inside⟩ : Cursor Char).next = ⟨offset + 1, inside⟩ := rfl
  rw [hnextTag] at h
  rw [htagEnd, leaf_visit_eq hsearches hopening, hnext]
  split_ifs at h ⊢
  obtain ⟨found, hfound, hrest⟩ := Option.bind_eq_some_iff.mp h
  obtain ⟨next, hseek, rfl⟩ := Option.map_eq_some_iff.mp hrest
  rw [hfound, Option.bind_some, hseek, Option.bind_some]
  obtain ⟨tag, opened, hinside, htag, rfl⟩ := (Cursor.seek_eq_some_iff _ _ _).mp hfound
  obtain ⟨region, rest, hopened, -, rfl⟩ := (Cursor.seek_eq_some_iff _ _ _).mp hseek
  change inside = _ at hinside
  change opened = _ at hopened
  subst hopened
  subst hinside
  exact ⟨tag, region, rest, rfl, htag, rfl, rfl, rfl⟩

/-- At an element a visit finds its two tags. -/
theorem tags_visit_of_element (hsearches : searches.Recall document)
    (hopening : (⟨offset, '<' :: inside⟩ : Cursor Char).IsIn document) {element : Element}
    {after : List Char} (helement : '<' :: inside = element.source ++ after) :
    (visit searches ⟨offset, '<' :: inside⟩).1.tagEnd? =
        some (offset + 1 + octetCount element.tag) ∧
      (visit searches ⟨offset, '<' :: inside⟩).1.nextTag? =
        some (offset + 1 + octetCount element.tag + 1 + octetCount element.region) := by
  obtain ⟨-, -, htagEnd, hnextTag⟩ := record_visit_eq hsearches hopening
  rw [Element.source_append] at helement
  obtain rfl := (List.cons.inj helement).2
  have hletter := head?_tag_append element
    ('>' :: (element.region ++ '<' :: '/' :: (element.name ++ '>' :: after)))
  rw [htagEnd, hnextTag, if_pos hletter, if_pos hletter,
    Cursor.seek_append _ _ element.tag_plain]
  refine ⟨rfl, ?_⟩
  change ((⟨_, element.region ++ '<' :: '/' :: (element.name ++ '>' :: after)⟩ :
    Cursor Char).seek '<').map _ = _
  rw [Cursor.seek_append _ _ element.region_plain]
  rfl

/-! ### What it cuts -/

/-- The text behind the slash of a closing tag. -/
theorem textBetween_closing {start : Nat} {closing : List Char}
    (h : textBetween document start (octetCount document) = some ('<' :: '/' :: closing)) :
    start + 2 ≤ octetCount document ∧
      textBetween document (start + 2) (octetCount document) = some closing := by
  obtain ⟨before, after, hdocument, rfl, hstop⟩ := (textBetween_eq_some_iff _ _ _ _).mp h
  have hcount : octetCount ('<' :: '/' :: closing) = 2 + octetCount closing := by
    rw [octetCount_cons, octetCount_cons, ← Nat.add_assoc]
    rfl
  rw [hcount, ← Nat.add_assoc] at hstop
  refine ⟨Nat.le.intro hstop, (textBetween_eq_some_iff _ _ _ _).mpr
    ⟨before ++ ['<', '/'], after, ?_, octetCount_append before ['<', '/'], ?_⟩⟩
  · simpa using hdocument
  · rw [octetCount_append]
    exact hstop

/-- An agreed length ends with a character of the name, so that it can be cut off. -/
theorem agreed_visit (hsearches : searches.Recall document)
    (hopening : (⟨offset, '<' :: inside⟩ : Cursor Char).IsIn document) {tagEnd nextTag n : Nat}
    {closing : List Char}
    (htagEnd : (visit searches ⟨offset, '<' :: inside⟩).1.tagEnd? = some tagEnd)
    (hnextTag : (visit searches ⟨offset, '<' :: inside⟩).1.nextTag? = some nextTag)
    (hclosing : textBetween document nextTag (octetCount document) =
      some ('<' :: '/' :: closing))
    (hagreed : agreedLength? (inside.takeWhile belongsToName) closing = some n) :
    0 < n ∧ n ≤ octetCount (inside.takeWhile belongsToName) ∧
      IsCut document (offset + 1 + n) tagEnd ∧ IsCut document (tagEnd + 1) nextTag ∧
      ∃ name rest, textBetween document (offset + 1) (offset + 1 + n) = some name ∧
        textBetween document (offset + 1 + n) (octetCount document) = some rest ∧
        ((visit searches ⟨offset, '<' :: inside⟩).1.leaf ≠ none ↔
          tagEnd + 1 ≠ nextTag ∧ isWordEdge name rest = true) := by
  obtain ⟨tag, region, rest, rfl, htag, hfound, rfl, hleaf⟩ :=
    exists_tags_visit hsearches hopening hnextTag
  obtain rfl := Option.some.inj (hfound.symm.trans htagEnd)
  rw [takeWhile_belongsToName_append] at hagreed ⊢
  obtain ⟨name, unread, attributes, -, hne, hname, rfl, -, rfl⟩ :=
    exists_name_of_agreed htag hagreed
  have hinside : (⟨offset + 1, _⟩ : Cursor Char).IsIn document := hopening.next
  have hnameEnd := hinside.advance (List.append_assoc name attributes _)
  have hattributes := hnameEnd.textBetween_eq rfl
  have hregion : (⟨_ + 1, _⟩ : Cursor Char).IsIn document := (hnameEnd.advance rfl).next
  have hnextPlace := hregion.advance rfl
  rw [Nat.add_assoc (offset + 1), ← octetCount_append] at hattributes hregion hnextPlace
  obtain rfl : rest = '/' :: closing :=
    (List.cons.inj (Option.some.inj (hnextPlace.textBetween_to_end.symm.trans hclosing))).2
  refine ⟨Nat.pos_of_ne_zero (mt eq_nil_of_octetCount_eq_zero hne), ?_,
    (isCut_iff _ _ _).mpr ⟨_, hattributes⟩, (isCut_iff _ _ _).mpr ⟨_, hregion.textBetween_eq rfl⟩,
    name, attributes ++ '>' :: (region ++ '<' :: '/' :: closing),
    hinside.textBetween_eq (List.append_assoc name attributes _), hnameEnd.textBetween_to_end, ?_⟩
  · rw [hname, octetCount_append]
    exact Nat.le_add_right _ _
  · have hempty : octetCount region = 0 ↔ region = [] :=
      ⟨eq_nil_of_octetCount_eq_zero, fun h ↦ by rw [h, octetCount_nil]⟩
    have hedge := isWordEdge_append_cons name attributes (region ++ '<' :: '/' :: closing) '>'
    rw [hleaf, leafBetween?_of_agreed _ _ _ _ _ hagreed, hedge, ne_eq (_ + 1), Nat.left_eq_add,
      hempty]
    split_ifs with hfits
    · exact iff_of_true (Option.some_ne_none _) hfits
    · exact iff_of_false (fun h ↦ h rfl) hfits

-- The two letters have their first octet in common, so that there is nothing to cut off.
example : sharedOctets "aè>".toList "aé".toList = 2 ∧
    agreedLength? "aé".toList "aè>".toList = none := by
  decide +kernel

/-- The parts of a leaf stand one behind the other. -/
theorem leaf_visit_parts (hsearches : searches.Recall document)
    (hopening : (⟨offset, '<' :: inside⟩ : Cursor Char).IsIn document) {leaf : Leaf}
    (h : (visit searches ⟨offset, '<' :: inside⟩).1.leaf = some leaf) :
    ∃ nameEnd tagEnd nextTag,
      (visit searches ⟨offset, '<' :: inside⟩).1.tagEnd? = some tagEnd ∧
      (visit searches ⟨offset, '<' :: inside⟩).1.nextTag? = some nextTag ∧ leaf.start = offset ∧
      leaf.start + 1 < nameEnd ∧ nameEnd ≤ tagEnd ∧ tagEnd + 1 < nextTag ∧ nextTag < leaf.stop ∧
      leaf.stop ≤ octetCount document ∧
      textBetween document (leaf.start + 1) nameEnd = some leaf.name ∧
      textBetween document nameEnd tagEnd = some leaf.attributes ∧
      textBetween document (tagEnd + 1) nextTag = some leaf.region ∧
      textBetween document leaf.start leaf.stop = some leaf.source := by
  obtain ⟨element, after, helement, rfl⟩ := (leaf_visit_eq_some_iff hsearches hopening leaf).mp h
  obtain ⟨htagEnd, hnextTag⟩ := tags_visit_of_element hsearches hopening helement
  have hstop := hopening.advance helement
  have hsource := hopening.textBetween_eq helement
  have hinside : (⟨offset + 1, inside⟩ : Cursor Char).IsIn document := hopening.next
  rw [Element.source_append] at helement
  obtain rfl := (List.cons.inj helement).2
  have hname := hinside.textBetween_eq (List.append_assoc element.name element.attributes _)
  have hnameEnd := hinside.advance (List.append_assoc element.name element.attributes _)
  have hattributes := hnameEnd.textBetween_eq rfl
  have hregionPlace : (⟨_ + 1, _⟩ : Cursor Char).IsIn document := (hnameEnd.advance rfl).next
  have hregion := hregionPlace.textBetween_eq rfl
  have htag : octetCount element.tag = octetCount element.name + octetCount element.attributes :=
    octetCount_append _ _
  have hnamePos : octetCount element.name ≠ 0 :=
    mt eq_nil_of_octetCount_eq_zero element.isName.ne_nil
  have hregionPos : octetCount element.region ≠ 0 :=
    mt eq_nil_of_octetCount_eq_zero element.region_ne_nil
  have hcount := octetCount_source element
  have hle := IsEdge.le ⟨_, hstop⟩
  rw [htag, ← Nat.add_assoc] at htagEnd hnextTag
  refine ⟨_, _, _, htagEnd, hnextTag, rfl, ?_, Nat.le_add_right _ _, ?_, ?_, hle, hname,
    hattributes, hregion, hsource⟩
  · change offset + 1 < _
    omega
  · omega
  · change _ < offset + octetCount element.source
    omega

theorem cutsWell_visit (hsearches : searches.Recall document)
    (hopening : (⟨offset, '<' :: inside⟩ : Cursor Char).IsIn document) :
    (visit searches ⟨offset, '<' :: inside⟩).1.CutsWell document := by
  have hstart := (record_visit_eq hsearches hopening).1
  have hinside : (⟨offset + 1, inside⟩ : Cursor Char).IsIn document := hopening.next
  have hfull : ∀ nameEnd, (visit searches ⟨offset, '<' :: inside⟩).1.nameEnd = some nameEnd →
      textBetween document (offset + 1) nameEnd = some (inside.takeWhile belongsToName) := by
    intro nameEnd hnameEnd
    rw [nameEnd_visit hsearches hopening hnameEnd]
    exact hinside.textBetween_eq List.takeWhile_append_dropWhile.symm
  constructor
  case inside =>
    rw [hstart]
    exact (isCut_iff _ _ _).mpr ⟨_, hinside.textBetween_to_end⟩
  case full_name =>
    intro nameEnd hnameEnd
    rw [hstart]
    exact (isCut_iff _ _ _).mpr ⟨_, hfull nameEnd hnameEnd⟩
  case closing => exact fun _ _ _ hclosing ↦ textBetween_closing hclosing
  case agreed =>
    intro nameEnd tagEnd nextTag fullName closing n hnameEnd htagEnd hnextTag hname hclosing
      hagreed
    rw [hstart] at hname ⊢
    obtain rfl := Option.some.inj ((hfull nameEnd hnameEnd).symm.trans hname)
    exact agreed_visit hsearches hopening htagEnd hnextTag hclosing hagreed
  case leaf =>
    intro leaf hleaf
    rw [hstart]
    exact leaf_visit_parts hsearches hopening hleaf

end Visit

/-! ### A whole scan -/

/-- What holds of each visit to a bracket of a document holds of every visit of its scan. -/
theorem Scanner.forall_visitsFrom {document : List Char} {property : Visit → Prop}
    (hvisit : ∀ (searches : Searches) (offset : Nat) (inside : List Char),
      searches.Recall document → (⟨offset, '<' :: inside⟩ : Cursor Char).IsIn document →
        property (visit searches ⟨offset, '<' :: inside⟩).1)
    {resume offset : Nat} {searches : Searches} {text : List Char}
    (hsearches : searches.Recall document)
    (hplace : (⟨offset, text⟩ : Cursor Char).IsIn document) :
    ∀ record ∈ visitsFrom resume searches offset text, property record := by
  induction text generalizing resume offset searches with
  | nil => exact fun record hrecord ↦ absurd hrecord List.not_mem_nil
  | cons c text ih =>
    by_cases hopens : c = '<' ∧ resume ≤ offset
    · rw [visitsFrom, if_pos hopens]
      obtain ⟨rfl, -⟩ := hopens
      intro record hrecord
      rcases List.mem_cons.mp hrecord with rfl | hrecord
      · exact hvisit searches offset text hsearches hplace
      · exact ih (hsearches.visit hplace) hplace.next record hrecord
    · rw [visitsFrom, if_neg hopens]
      exact ih hsearches hplace.next

theorem visits_cutsWell (document : List Char) :
    ∀ record ∈ (Scanner.ofDocument document).visits, record.CutsWell document :=
  Scanner.forall_visitsFrom (fun _ _ _ hsearches hopening ↦ cutsWell_visit hsearches hopening)
    (Searches.recall_fresh document) (Cursor.start_isIn document)

end LeafLayout.Markup
