import LeafLayout.Markup.Scanner
import LeafLayout.Proofs.Markup.Grammar
import LeafLayout.Proofs.Markup.NameAgreement
import Mathlib.Data.List.TakeWhile

/-!
What one visit finds. As long as the searches recall the document, a visit to an opening bracket
yields a leaf just when an element begins there, and it leaves searches that recall the document.
The name is read as far as it goes, but the close tag decides how much of it counts, so that the
element found need not have all of it as its name.
-/

set_option autoImplicit false

namespace LeafLayout.Markup

open Text

theorem takeWhile_belongsToName_append (tag rest : List Char) :
    (tag ++ '>' :: rest).takeWhile belongsToName = tag.takeWhile belongsToName := by
  induction tag with
  | nil => exact List.takeWhile_cons_of_neg (by decide)
  | cons c tag ih =>
    by_cases hc : belongsToName c = true
    · rw [List.cons_append, List.takeWhile_cons_of_pos hc, List.takeWhile_cons_of_pos hc, ih]
    · rw [List.cons_append, List.takeWhile_cons_of_neg hc, List.takeWhile_cons_of_neg hc]

theorem takeWhile_tag (element : Element) :
    ∃ unread, element.tag.takeWhile belongsToName = element.name ++ unread := by
  rw [Element.tag, List.takeWhile_append_of_pos element.isName.belongsToName]
  exact ⟨_, rfl⟩

theorem head?_tag_append (element : Element) (rest : List Char) :
    (element.tag ++ rest).head?.any beginsName = true := by
  obtain ⟨letter, others, hname, hletter, -⟩ := element.isName
  simp [Element.tag, hname, hletter]

theorem octetCount_source (element : Element) :
    octetCount element.source = 1 + octetCount element.tag + 1 + octetCount element.region + 2 +
      octetCount element.name + 1 := by
  have hstart : Roomy.room '<' = 1 := rfl
  have hend : Roomy.room '>' = 1 := rfl
  have hslash : Roomy.room '/' = 1 := rfl
  rw [← List.append_nil element.source, Element.source_append]
  simp only [octetCount_cons, octetCount_append, octetCount_nil, hstart, hend, hslash]
  omega

theorem isWordEdge_append_cons (name attributes rest : List Char) (c : Char) :
    isWordEdge name (attributes ++ c :: rest) = isWordEdge name (attributes ++ [c]) := by
  cases attributes with
  | nil => rfl
  | cons d attributes => rfl

/-- Once the close tag has settled the name, what is left to see is that there is a region and that
a word ends or begins behind the name. -/
theorem leafBetween?_of_agreed (offset : Nat) (name attributes region closing : List Char)
    (hagreed : agreedLength? ((name ++ attributes).takeWhile belongsToName) closing =
      some (octetCount name)) :
    leafBetween?
        ⟨offset + 1, name ++ attributes ++ '>' :: (region ++ '<' :: '/' :: closing)⟩
        ⟨offset + 1 + octetCount (name ++ attributes), '>' :: (region ++ '<' :: '/' :: closing)⟩
        ⟨offset + 1 + octetCount (name ++ attributes) + 1 + octetCount region,
          '<' :: '/' :: closing⟩ =
      if region ≠ [] ∧ isWordEdge name (attributes ++ ['>']) = true then
        some {
          start := offset
          stop := offset + 1 + octetCount (name ++ attributes) + 1 + octetCount region + 2 +
            octetCount name + 1
          name, attributes, region }
      else none := by
  have hname := Cursor.cutAt?_append (offset + 1) name
    (attributes ++ '>' :: (region ++ '<' :: '/' :: closing))
  have hattributes := Cursor.cutAt?_append (offset + 1 + octetCount name) attributes
    ('>' :: (region ++ '<' :: '/' :: closing))
  have hregion := Cursor.cutAt?_append (offset + 1 + octetCount (name ++ attributes) + 1) region
    ('<' :: '/' :: closing)
  rw [Nat.add_assoc (offset + 1), ← octetCount_append] at hattributes
  have hfull := takeWhile_belongsToName_append (name ++ attributes)
    (region ++ '<' :: '/' :: closing)
  have hroom : Roomy.room '>' = 1 := rfl
  simp only [leafBetween?, Cursor.next, hfull, hagreed, hroom]
  by_cases hempty : region = []
  · subst hempty
    simp [octetCount_nil]
  · have hpositive : octetCount region ≠ 0 := fun h ↦ hempty (eq_nil_of_octetCount_eq_zero h)
    rw [if_neg (by omega)]
    rw [List.append_assoc]
    simp only [Option.bind_eq_bind, Option.bind_some, hname, isWordEdge_append_cons, hattributes,
      hregion]
    by_cases hedge : isWordEdge name (attributes ++ ['>']) = true
    · simp [hedge, hempty]
    · simp [hedge]

/-- The name that the close tag has settled on begins the tag. -/
theorem exists_name_of_agreed {tag closing : List Char} {n : Nat} (htag : '>' ∉ tag)
    (h : agreedLength? (tag.takeWhile belongsToName) closing = some n) :
    ∃ name unread attributes after, name ≠ [] ∧ tag.takeWhile belongsToName = name ++ unread ∧
      tag = name ++ attributes ∧ closing = name ++ '>' :: after ∧ octetCount name = n := by
  have hfull : '>' ∉ tag.takeWhile belongsToName := fun hmem ↦
    htag ((List.takeWhile_sublist _).subset hmem)
  obtain ⟨name, unread, after, hne, hname, hclosing, hcount⟩ :=
    (agreedLength?_eq_some_iff _ _ _ hfull).mp h
  refine ⟨name, unread, unread ++ tag.dropWhile belongsToName, after, hne, hname, ?_, hclosing,
    hcount⟩
  rw [← List.append_assoc, ← hname, List.takeWhile_append_dropWhile]

/-- What stands between brackets that a visit has settled on is the element that the leaf says. -/
theorem exists_element_of_leafBetween? {offset : Nat} {tag region rest : List Char} {leaf : Leaf}
    (htag : '>' ∉ tag) (hregion : '<' ∉ region) (hletter : tag.head?.any beginsName = true)
    (h : leafBetween? ⟨offset + 1, tag ++ '>' :: (region ++ '<' :: rest)⟩
        ⟨offset + 1 + octetCount tag, '>' :: (region ++ '<' :: rest)⟩
        ⟨offset + 1 + octetCount tag + 1 + octetCount region, '<' :: rest⟩ = some leaf) :
    ∃ (element : Element) (after : List Char),
      '<' :: (tag ++ '>' :: (region ++ '<' :: rest)) = element.source ++ after ∧
        leaf = element.leafAt offset := by
  have hslash : ∃ closing, rest = '/' :: closing := by
    simp only [leafBetween?, Cursor.next] at h
    split at h
    · exact ⟨_, rfl⟩
    · cases h
  obtain ⟨closing, rfl⟩ := hslash
  have hagreed : ∃ n, agreedLength? (tag.takeWhile belongsToName) closing = some n := by
    simp only [leafBetween?, Cursor.next, takeWhile_belongsToName_append] at h
    split_ifs at h
    cases hn : agreedLength? (tag.takeWhile belongsToName) closing with
    | none => simp [hn] at h
    | some n => exact ⟨n, rfl⟩
  obtain ⟨n, hn⟩ := hagreed
  obtain ⟨name, unread, attributes, after, hne, hname, rfl, rfl, rfl⟩ :=
    exists_name_of_agreed htag hn
  rw [leafBetween?_of_agreed offset name attributes region _ hn] at h
  split_ifs at h with hleaf
  obtain ⟨letter, others, rfl⟩ := List.exists_cons_of_ne_nil hne
  have hothers : ∀ c ∈ letter :: others, belongsToName c = true := fun c hc ↦
    List.mem_takeWhile_imp (hname ▸ List.mem_append_left _ hc)
  let element : Element := {
    name := letter :: others
    attributes, region
    isName := ⟨letter, others, rfl, by simpa using hletter, fun c hc ↦
      hothers c (List.mem_cons_of_mem _ hc)⟩
    name_edge := hleaf.2
    attributes_plain := fun hmem ↦ htag (List.mem_append_right _ hmem)
    region_ne_nil := hleaf.1
    region_plain := hregion }
  refine ⟨element, after, (element.source_append after).symm, ?_⟩
  rw [← Option.some.inj h, Element.leafAt, octetCount_source]
  simp only [element, Element.tag, Nat.add_assoc]

theorem leafBetween?_of_element (offset : Nat) (element : Element) (after : List Char) :
    leafBetween?
        ⟨offset + 1, element.tag ++ '>' :: (element.region ++
          '<' :: '/' :: (element.name ++ '>' :: after))⟩
        ⟨offset + 1 + octetCount element.tag, '>' :: (element.region ++
          '<' :: '/' :: (element.name ++ '>' :: after))⟩
        ⟨offset + 1 + octetCount element.tag + 1 + octetCount element.region,
          '<' :: '/' :: (element.name ++ '>' :: after)⟩ = some (element.leafAt offset) := by
  obtain ⟨unread, hfull⟩ := takeWhile_tag element
  have hplain : '>' ∉ element.tag.takeWhile belongsToName := fun hmem ↦
    element.tag_plain ((List.takeWhile_sublist _).subset hmem)
  have hagreed := (agreedLength?_eq_some_iff _ (element.name ++ '>' :: after) _ hplain).mpr
    ⟨element.name, unread, after, element.isName.ne_nil, hfull, rfl, rfl⟩
  have hbetween := leafBetween?_of_agreed offset element.name element.attributes element.region
    (element.name ++ '>' :: after) hagreed
  rw [if_pos ⟨element.region_ne_nil, element.name_edge⟩] at hbetween
  refine hbetween.trans ?_
  rw [Element.leafAt, octetCount_source]
  simp only [Element.tag, Nat.add_assoc]

/-- Both searches recall the document. -/
def Searches.Recall (searches : Searches) (document : List Char) : Prop :=
  searches.tagEnd.Recalls document '>' ∧ searches.nextTag.Recalls document '<'

theorem Searches.recall_fresh (document : List Char) : ({} : Searches).Recall document :=
  ⟨Search.recalls_fresh document '>', Search.recalls_fresh document '<'⟩

section Visit

variable {searches : Searches} {document : List Char}

theorem Searches.Recall.visit (hsearches : searches.Recall document) {opening : Cursor Char}
    (hopening : opening.IsIn document) : (visit searches opening).2.Recall document := by
  have hnameEnd := hopening.next.pass belongsToName
  have htagEnd := hsearches.1.ask hnameEnd
  simp only [Markup.visit, Search.inquire_eq]
  split_ifs
  · split
    · exact ⟨htagEnd, hsearches.2⟩
    · rename_i tagEnd hanswer
      rw [hsearches.1.answer_ask hnameEnd] at hanswer
      have hnextTag := hsearches.2.ask (hnameEnd.seek hanswer).next
      split
      · exact ⟨htagEnd, hnextTag⟩
      · exact ⟨htagEnd, hnextTag⟩
  · exact hsearches

/-- The leaf of a visit, with the searches done anew. -/
theorem leaf_visit_eq (hsearches : searches.Recall document) {opening : Cursor Char}
    (hopening : opening.IsIn document) :
    (visit searches opening).1.leaf =
      if opening.next.rest.head?.any beginsName then
        (opening.next.seek '>').bind fun tagEnd ↦
          (tagEnd.next.seek '<').bind fun nextTag ↦ leafBetween? opening.next tagEnd nextTag
      else none := by
  have hnameEnd := hopening.next.pass belongsToName
  simp only [Markup.visit, Search.inquire_eq, hsearches.1.answer_ask hnameEnd,
    Cursor.seek_pass opening.next belongsToName_tagEnd]
  split_ifs
  · cases htagEnd : opening.next.seek '>' with
    | none => rfl
    | some tagEnd =>
      simp only [hsearches.2.answer_ask (hopening.next.seek htagEnd).next, Option.bind_some]
      cases tagEnd.next.seek '<' with
      | none => rfl
      | some nextTag => rfl
  · rfl

/-- A visit finds a leaf just when an element begins at the bracket. -/
theorem leaf_visit_eq_some_iff (hsearches : searches.Recall document) {offset : Nat}
    {inside : List Char} (hopening : (⟨offset, '<' :: inside⟩ : Cursor Char).IsIn document)
    (leaf : Leaf) :
    (visit searches ⟨offset, '<' :: inside⟩).1.leaf = some leaf ↔
      ∃ (element : Element) (after : List Char),
        '<' :: inside = element.source ++ after ∧ leaf = element.leafAt offset := by
  rw [leaf_visit_eq hsearches hopening]
  change (if inside.head?.any beginsName = true then
      ((⟨offset + 1, inside⟩ : Cursor Char).seek '>').bind fun tagEnd ↦
        (tagEnd.next.seek '<').bind fun nextTag ↦ leafBetween? ⟨offset + 1, inside⟩ tagEnd nextTag
    else none) = some leaf ↔ _
  constructor
  · intro h
    split_ifs at h with hletter
    obtain ⟨tagEnd, htagEnd, hrest⟩ := Option.bind_eq_some_iff.mp h
    obtain ⟨nextTag, hnextTag, hleaf⟩ := Option.bind_eq_some_iff.mp hrest
    obtain ⟨tag, opened, hinside, htag, rfl⟩ := (Cursor.seek_eq_some_iff _ _ _).mp htagEnd
    obtain ⟨region, closing, hopened, hregion, rfl⟩ := (Cursor.seek_eq_some_iff _ _ _).mp hnextTag
    change inside = _ at hinside
    change opened = _ at hopened
    subst hopened
    subst hinside
    refine exists_element_of_leafBetween? htag hregion ?_ hleaf
    rcases tag with _ | ⟨letter, tag⟩
    · simp [beginsName] at hletter
    · exact hletter
  · intro h
    obtain ⟨element, after, hsource, rfl⟩ := h
    rw [Element.source_append] at hsource
    obtain rfl := (List.cons.inj hsource).2
    rw [if_pos (head?_tag_append element _), Cursor.seek_append _ _ element.tag_plain,
      Option.bind_some]
    change ((⟨_, element.region ++ '<' :: '/' :: (element.name ++ '>' :: after)⟩ :
      Cursor Char).seek '<').bind _ = _
    rw [Cursor.seek_append _ _ element.region_plain, Option.bind_some]
    exact leafBetween?_of_element offset element after

end Visit

end LeafLayout.Markup
