import LeafLayout.Proofs.Layout.Content
import Mathlib.Data.List.Infix

/-!
Elements whose content is not plain text. Such an element is left alone as a whole only where it is
a leaf. Where it is none the layout does not look for its end: the name and the close tag stay, and
what stands between them is laid out like any other text, because no element begins at the open tag
and only an element of the same name can end with the close tag.
-/

set_option autoImplicit false

namespace LeafLayout

open Text

namespace Markup

/-! ### Names that are left alone -/

theorem isAlpha_of_isLower_toLower {c : Char} (h : c.toLower.isLower = true) :
    c.isAlpha = true := by
  refine Bool.or_eq_true_iff.mpr ?_
  unfold Char.toLower at h
  split_ifs at h with hupper
  · exact Or.inl (decide_eq_true hupper)
  · exact Or.inr h

/-- A name whose element is left alone is made of ASCII letters. -/
theorem beginsName_of_isVerbatim {name : List Char} (h : isVerbatim name = true) :
    ∀ c ∈ name, beginsName c = true := by
  have hlisted : (verbatimNames.all fun listed ↦
      listed.all fun c ↦ c.isLower && c != 'k') = true := by
    decide +kernel
  intro c hc
  have hmem : name.map plainLower ∈ verbatimNames := List.contains_iff_mem.mp h
  have hletter := List.all_eq_true.mp (List.all_eq_true.mp hlisted _ hmem) _
    (List.mem_map_of_mem hc)
  obtain ⟨hlower, hne⟩ : (plainLower c).isLower = true ∧ plainLower c ≠ 'k' := by
    rwa [Bool.and_eq_true, bne_iff_ne] at hletter
  unfold plainLower at hlower hne
  split_ifs at hlower hne
  · exact absurd rfl hne
  · exact isAlpha_of_isLower_toLower hlower

theorem tagEnd_notMem_of_isVerbatim {name : List Char} (h : isVerbatim name = true) :
    '>' ∉ name :=
  fun hmem ↦ Bool.false_ne_true (beginsName_of_isVerbatim h _ hmem)

theorem tagStart_notMem_of_isVerbatim {name : List Char} (h : isVerbatim name = true) :
    '<' ∉ name :=
  fun hmem ↦ Bool.false_ne_true (beginsName_of_isVerbatim h _ hmem)

theorem not_belongsToName_of_isBlank {c : Char} (h : isBlank c = true) :
    belongsToName c = false := by
  have hblanks : ∀ n ∈ [0x09, 0x0A, 0x0B, 0x0C, 0x0D, 0x20, 0x85, 0xA0, 0x1680, 0x2000, 0x2001,
      0x2002, 0x2003, 0x2004, 0x2005, 0x2006, 0x2007, 0x2008, 0x2009, 0x200A, 0x2028, 0x2029,
      0x202F, 0x205F, 0x3000], belongsToName (Char.ofNat n) = false := by
    decide +kernel
  rw [← Char.ofNat_toNat c]
  refine hblanks _ ?_
  simp only [isBlank, Bool.or_eq_true, Bool.and_eq_true, decide_eq_true_eq, beq_iff_eq] at h
  simp only [List.mem_cons, List.not_mem_nil, or_false]
  omega

/-- Of an open tag with such a name, followed by nothing or a blank, no shorter and no longer part
is the name of an element. -/
theorem Element.name_eq_of_tag_eq {element : Element} {name attributes : List Char}
    (hname : isVerbatim name = true)
    (hattributes : ∀ c, attributes.head? = some c → isBlank c = true)
    (htag : element.tag = name ++ attributes) : element.name = name := by
  rcases List.append_eq_append_iff.mp htag with ⟨unread, hlonger, hrest⟩ | ⟨blank, hlonger, hrest⟩
  · cases unread with
    | nil => rw [hlonger, List.append_nil]
    | cons c unread =>
      have hedge := element.name_edge
      have hnext : belongsToWord c = true :=
        belongsToWord_of_beginsName (beginsName_of_isVerbatim hname c (by simp [hlonger]))
      have hlast : element.name.getLast?.any belongsToWord = true := by
        rw [Option.any_eq_true]
        refine ⟨_, List.getLast?_eq_some_getLast element.isName.ne_nil, ?_⟩
        refine belongsToWord_of_beginsName (beginsName_of_isVerbatim hname _ ?_)
        rw [hlonger]
        exact List.mem_append_left _ (List.getLast_mem _)
      rw [isWordEdge, hlast, hrest] at hedge
      simp [hnext] at hedge
  · cases blank with
    | nil => rw [hlonger, List.append_nil]
    | cons c blank =>
      have hbelongs := element.isName.belongsToName c (by simp [hlonger])
      rw [not_belongsToName_of_isBlank (hattributes c (by rw [hrest]; rfl))] at hbelongs
      exact absurd hbelongs Bool.false_ne_true

/-! ### Close tags -/

def closeTag (name : List Char) : List Char :=
  '<' :: '/' :: name ++ ['>']

/-- Once a tag has ended, no other begins. -/
def IsUnclosed (text : List Char) : Prop :=
  ∀ before region, text = before ++ '>' :: region → '<' ∉ region

theorem isUnclosed_append_tagEnd {before region : List Char} (hbefore : '>' ∉ before)
    (hregion : '<' ∉ region) : IsUnclosed (before ++ '>' :: region) := by
  intro first rest h hmem
  rcases List.append_eq_append_iff.mp h with ⟨more, hfirst, hrest⟩ | ⟨more, hfirst, hrest⟩
  · cases more with
    | nil => exact hregion ((List.cons.inj hrest).2 ▸ hmem)
    | cons c more =>
      have hlater : region = more ++ '>' :: rest := (List.cons.inj hrest).2
      exact hregion (by simp [hlater, hmem])
  · cases more with
    | nil => exact hregion ((List.cons.inj hrest).2 ▸ hmem)
    | cons c more =>
      obtain rfl := (List.cons.inj hrest).1
      exact hbefore (by simp [hfirst])

theorem IsUnclosed.of_cons {c : Char} {text : List Char} (h : IsUnclosed (c :: text)) :
    IsUnclosed text :=
  fun before region htext ↦ h (c :: before) region (by rw [htext, List.cons_append])

/-- An element has its close tag after its open tag. -/
theorem IsUnclosed.not_beginsElement {text : List Char} (h : IsUnclosed text) :
    ¬ BeginsElement text := by
  rintro ⟨element, rest, rfl⟩
  rw [Element.source_append, ← List.cons_append] at h
  exact h _ _ rfl (by simp)

/-- Two ways to divide a text at its last bracket are one. -/
theorem append_cons_inj_of_notMem {x : Char} {first after second rest : List Char}
    (h : first ++ x :: after = second ++ x :: rest) (hafter : x ∉ after) (hrest : x ∉ rest) :
    first = second ∧ after = rest := by
  have hreverse := congrArg List.reverse h
  simp only [List.reverse_append, List.reverse_cons, List.append_assoc, List.singleton_append]
    at hreverse
  obtain ⟨hbehind, -, hbefore⟩ := append_cons_inj hreverse (by simpa using hrest)
    (by simpa using hafter)
  exact ⟨List.reverse_injective hbefore, List.reverse_injective hbehind⟩

theorem Element.tagEnd_mem_of_source_eq {element : Element} {text tail : List Char}
    (hbegins : ¬ BeginsElement text) (h : element.source = text ++ tail) : '>' ∈ tail := by
  have htail : tail ≠ [] := by
    rintro rfl
    exact hbegins ⟨element, [], by rw [h, List.append_nil, List.append_nil]⟩
  have hlast : (text ++ tail).getLast? = some '>' := by
    rw [← h]
    exact List.getLast?_concat
  rw [List.getLast?_append_of_ne_nil text htail] at hlast
  exact List.mem_of_getLast? hlast

/-- An element that begins in a text and ends no sooner than in a close tag after it ends with that
close tag, and nothing was closed before. -/
theorem Element.straddles {element : Element} {name text rest : List Char}
    (hstart : '<' ∉ name) (hend : '>' ∉ name) (hbegins : ¬ BeginsElement text)
    (h : text ++ closeTag name = element.source ++ rest) :
    rest = [] ∧ element.name = name ∧ IsUnclosed text := by
  have hsource : element.source =
      ('<' :: element.tag ++ '>' :: element.region) ++ '<' :: ('/' :: element.name ++ ['>']) := by
    simp [Element.source, Element.tag]
  have hrest : rest = [] := by
    rcases List.append_eq_append_iff.mp h with ⟨tail, htext, hclose⟩ | ⟨tail, htext, -⟩
    · have htail := tagEnd_mem_of_source_eq hbegins htext
      rcases List.eq_nil_or_concat rest with rfl | ⟨more, last, rfl⟩
      · rfl
      · rw [closeTag, List.concat_eq_append, ← List.append_assoc] at hclose
        have hname : '<' :: '/' :: name = tail ++ more := List.append_inj_left' hclose rfl
        have hmem : '>' ∈ '<' :: '/' :: name := hname ▸ List.mem_append_left more htail
        simp [hend] at hmem
    · exact absurd ⟨element, tail, htext⟩ hbegins
  subst hrest
  rw [List.append_nil, hsource] at h
  obtain ⟨rfl, hname⟩ := append_cons_inj_of_notMem h (by simp [hstart])
    (by simp [element.isName.tagStart_notMem])
  refine ⟨rfl, ?_, isUnclosed_append_tagEnd ?_ element.region_plain⟩
  · exact (List.append_cancel_right (List.cons.inj hname).2).symm
  · simp [element.tag_plain]

/-- An element that begins with the open tag ends with the first close tag of that name. If there is
none inside the content, it ends with the one behind, and the content is plain. -/
theorem Element.closes_last {element : Element} {name attributes content rest : List Char}
    (hname : isVerbatim name = true)
    (hattributes : ∀ c, attributes.head? = some c → isBlank c = true) (hplain : '>' ∉ attributes)
    (hcontent : ¬ closeTag name <:+: content)
    (h : '<' :: name ++ attributes ++ '>' :: content ++ closeTag name = element.source ++ rest) :
    element.name = name ∧ rest = [] ∧ '<' ∉ content := by
  have hdocument : '<' :: name ++ attributes ++ '>' :: content ++ closeTag name =
      '<' :: ((name ++ attributes) ++ '>' :: (content ++ '<' :: '/' :: (name ++ ['>']))) := by
    simp [closeTag]
  rw [hdocument, Element.source_append] at h
  have hopen : '>' ∉ name ++ attributes := by
    simp [tagEnd_notMem_of_isVerbatim hname, hplain]
  obtain ⟨htag, -, hopened⟩ := append_cons_inj (List.cons.inj h).2 element.tag_plain hopen
  have hsame : element.name = name := name_eq_of_tag_eq hname hattributes htag.symm
  rw [hsame] at hopened
  by_cases hstart : '<' ∈ content
  · obtain ⟨region, closing, rfl, hregion⟩ := List.eq_append_cons_of_mem hstart
    rw [List.append_assoc, List.cons_append] at hopened
    obtain ⟨-, -, hclosing⟩ := append_cons_inj hopened element.region_plain hregion
    obtain ⟨between, rfl⟩ := exists_closing_eq (tagStart_notMem_of_isVerbatim hname)
      (tagEnd_notMem_of_isVerbatim hname) hclosing
    exact absurd ⟨region, between, by simp [closeTag]⟩ hcontent
  · obtain ⟨-, -, hclosing⟩ := append_cons_inj hopened element.region_plain hstart
    have hrest := List.append_cancel_left (List.cons.inj hclosing).2
    exact ⟨hsame, (List.cons.inj hrest).2.symm, hstart⟩

end Markup

namespace Style

open Markup

variable {style : Style}

/-! ### Layout -/

theorem arrange_source_of_isVerbatim {element : Element} (h : isVerbatim element.name = true) :
    style.arrange element.source = element.source := by
  have hkept : style.leafBlock? (element.leafAt 0) = none :=
    (leafBlock?_eq_none_iff _).mpr (Or.inl (by rw [Bool.or_eq_true]; exact Or.inr h))
  have hsource := style.arrange_source_append element []
  rw [List.append_nil, arrange_nil, List.append_nil, rendered, hkept] at hsource
  exact hsource

theorem arrange_of_isUnclosed {text : List Char} (h : IsUnclosed text) :
    style.arrange text = text := by
  induction text with
  | nil => exact arrange_nil
  | cons c text ih => rw [arrange_cons h.not_beginsElement, ih h.of_cons]

/-- Induction on the pieces of the text: only where nothing was closed before can an element take in
the close tag, and it is left alone. -/
theorem arrange_append_closeTag {name : List Char} (hname : isVerbatim name = true)
    (text : List Char) :
    style.arrange (text ++ closeTag name) = style.arrange text ++ closeTag name := by
  have hstart := tagStart_notMem_of_isVerbatim hname
  have hend := tagEnd_notMem_of_isVerbatim hname
  obtain ⟨pieces, hpieces⟩ := exists_segmented text
  induction hpieces with
  | done =>
    have hplain : '>' ∉ '<' :: '/' :: name := by
      simp [hend]
    have hclose : IsUnclosed (closeTag name) :=
      isUnclosed_append_tagEnd hplain List.not_mem_nil
    rw [arrange_nil, List.nil_append, arrange_of_isUnclosed hclose]
  | @plain c text pieces hbegins _ ih =>
    by_cases hstraddles : BeginsElement (c :: text ++ closeTag name)
    · obtain ⟨element, rest, hsource⟩ := hstraddles
      obtain ⟨rfl, hsame, hunclosed⟩ := Element.straddles hstart hend hbegins hsource
      rw [List.append_nil] at hsource
      rw [arrange_of_isUnclosed hunclosed, hsource, arrange_source_of_isVerbatim (hsame ▸ hname)]
    · rw [List.cons_append] at hstraddles ⊢
      rw [arrange_cons hstraddles, ih, arrange_cons hbegins, List.cons_append]
  | @element element text pieces _ ih =>
    rw [List.append_assoc, arrange_source_append, ih, arrange_source_append, List.append_assoc]

/-- An element whose content is not plain text, by its name in any case, keeps its name and its
close tag whatever it holds, as long as that close tag comes first at its end. What stands between
them is laid out on its own: it stays as it is just if it would as a document, and so if the content
begins no tag. -/
theorem arrange_verbatim (style : Style) (name attributes content : List Char)
    (hname : isVerbatim name = true)
    (hattributes : ∀ c, attributes.head? = some c → isBlank c = true) (hplain : '>' ∉ attributes)
    (hcontent : ¬ closeTag name <:+: content) :
    let inner := attributes ++ '>' :: content
    let document := '<' :: name ++ attributes ++ '>' :: content ++ closeTag name
    style.arrange document = '<' :: name ++ style.arrange inner ++ closeTag name ∧
      (style.arrange document = document ↔ style.arrange inner = inner) ∧
      ('<' ∉ content → style.arrange document = document) := by
  intro inner document
  have hdocument : document = '<' :: name ++ inner ++ closeTag name := by
    simp [document, inner]
  have harrange : style.arrange document = '<' :: name ++ style.arrange inner ++ closeTag name := by
    by_cases hbegins : BeginsElement document
    · obtain ⟨element, rest, hsource⟩ := hbegins
      obtain ⟨hsame, rfl, htext⟩ :=
        Element.closes_last hname hattributes hplain hcontent hsource
      rw [List.append_nil] at hsource
      have hunclosed : IsUnclosed inner := isUnclosed_append_tagEnd hplain htext
      rw [arrange_of_isUnclosed hunclosed, ← hdocument, hsource,
        arrange_source_of_isVerbatim (hsame ▸ hname)]
    · rw [hdocument, List.append_assoc, List.cons_append] at hbegins ⊢
      rw [arrange_cons hbegins, arrange_append_of_notMem (tagStart_notMem_of_isVerbatim hname),
        arrange_append_closeTag hname, List.append_assoc, List.cons_append]
  have hkept : style.arrange document = document ↔ style.arrange inner = inner := by
    rw [harrange, hdocument]
    exact ⟨fun h ↦ List.append_cancel_left (List.append_cancel_right h), fun h ↦ by rw [h]⟩
  refine ⟨harrange, hkept, fun htext ↦ hkept.mpr ?_⟩
  exact arrange_of_isUnclosed (isUnclosed_append_tagEnd hplain htext)

/-- The names may be in any case, and content that begins a tag may still be left alone. -/
theorem arrange_verbatim_textArea :
    let name := "TextArea".toList
    let attributes := " rows".toList
    let content := "a <i> b\n</textarea>".toList
    isVerbatim name = true ∧ (∀ c, attributes.head? = some c → isBlank c = true) ∧
      '>' ∉ attributes ∧ ¬ closeTag name <:+: content ∧
      tabbed.arrange "<TextArea rows>a <i> b\n</textarea></TextArea>".toList =
        "<TextArea rows>a <i> b\n</textarea></TextArea>".toList := by
  intro name attributes content
  have hname : isVerbatim name = true := by decide +kernel
  have hattributes : ∀ c, attributes.head? = some c → isBlank c = true := by
    rintro c ⟨⟩
    rfl
  have hplain : '>' ∉ attributes := by decide +kernel
  have hcontent : ¬ closeTag name <:+: content := by decide +kernel
  refine ⟨hname, hattributes, hplain, hcontent, ?_⟩
  exact (arrange_verbatim tabbed name attributes content hname hattributes hplain hcontent).2.1.mpr
    (by decide +kernel)

/-- Markup inside is laid out, be it in the middle of a script. -/
theorem not_forall_arrange_verbatim :
    ¬ ∀ (style : Style) (name attributes content : List Char), isVerbatim name = true →
      (∀ c, attributes.head? = some c → isBlank c = true) → '>' ∉ attributes →
      ¬ closeTag name <:+: content →
      style.arrange ('<' :: name ++ attributes ++ '>' :: content ++ closeTag name) =
        '<' :: name ++ attributes ++ '>' :: content ++ closeTag name := by
  intro h
  have hscript := h {} "script".toList [] "a(\"<b>x</b>\")".toList (by decide +kernel)
    (fun _ hc ↦ by cases hc) List.not_mem_nil (by decide +kernel)
  revert hscript
  decide +kernel

end Style

end LeafLayout
