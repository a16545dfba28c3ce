import LeafLayout.Markup.Leaf
import LeafLayout.Proofs.Text.Places

/-!
The grammar of elements with plain content. An element is read in one way only: its open tag ends at
the first bracket that can end it, its content at the first that can begin a tag, and the name in
its close tag fixes how much of the open tag is the name. An element that begins before another one
either ends before it or has the other's close tag as its own; nothing further on matters to it.
-/

set_option autoImplicit false

namespace LeafLayout.Markup

open Text

theorem belongsToWord_of_beginsName {c : Char} (h : beginsName c = true) :
    belongsToWord c = true := by
  have halpha : c.isAlpha = true := h
  have hletter : c.isUpper = true ∨ c.isLower = true := Bool.or_eq_true_iff.mp h
  have hascii : c.toNat < 0x80 := by
    rcases hletter with hupper | hlower
    · exact Nat.lt_of_le_of_lt (UInt32.le_iff_toNat_le.mp (of_decide_eq_true hupper).2) (by decide)
    · have hbounds := Bool.and_eq_true_iff.mp hlower
      exact Nat.lt_of_le_of_lt (UInt32.le_iff_toNat_le.mp (of_decide_eq_true hbounds.2)) (by decide)
  simp [belongsToWord, isAlphanumeric_of_ascii hascii, Char.isAlphanum, halpha]

theorem belongsToName_of_beginsName {c : Char} (h : beginsName c = true) :
    belongsToName c = true := by
  rw [belongsToName, belongsToWord_of_beginsName h, Bool.true_or, Bool.true_or]

theorem belongsToName_tagStart : belongsToName '<' = false := by
  decide

theorem belongsToName_tagEnd : belongsToName '>' = false := by
  decide

/-- An ASCII letter and after it letters, digits, underscores, colons and hyphens. -/
def IsName (name : List Char) : Prop :=
  ∃ letter others, name = letter :: others ∧ beginsName letter = true ∧
    ∀ c ∈ others, belongsToName c = true

theorem IsName.ne_nil {name : List Char} (h : IsName name) : name ≠ [] := by
  obtain ⟨letter, others, rfl, -, -⟩ := h
  exact List.cons_ne_nil letter others

theorem IsName.belongsToName {name : List Char} (h : IsName name) :
    ∀ c ∈ name, belongsToName c = true := by
  obtain ⟨letter, others, rfl, hletter, hothers⟩ := h
  intro c hc
  rcases List.mem_cons.mp hc with rfl | hc
  · exact belongsToName_of_beginsName hletter
  · exact hothers c hc

theorem IsName.tagStart_notMem {name : List Char} (h : IsName name) : '<' ∉ name := by
  intro hmem
  have hbelongs := h.belongsToName _ hmem
  rw [belongsToName_tagStart] at hbelongs
  exact Bool.false_ne_true hbelongs

theorem IsName.tagEnd_notMem {name : List Char} (h : IsName name) : '>' ∉ name := by
  intro hmem
  have hbelongs := h.belongsToName _ hmem
  rw [belongsToName_tagEnd] at hbelongs
  exact Bool.false_ne_true hbelongs

/-- An element with plain content: an open tag made of a name and what else it holds, and a region
without a tag, which is not empty. The close tag repeats the name. -/
structure Element where
  name : List Char
  attributes : List Char
  region : List Char
  isName : IsName name
  name_edge : isWordEdge name (attributes ++ ['>']) = true
  attributes_plain : '>' ∉ attributes
  region_ne_nil : region ≠ []
  region_plain : '<' ∉ region

namespace Element

/-- All of the open tag between its brackets. -/
def tag (element : Element) : List Char :=
  element.name ++ element.attributes

def source (element : Element) : List Char :=
  '<' :: element.name ++ element.attributes ++ '>' :: element.region ++
    '<' :: '/' :: element.name ++ ['>']

/-- The element as a leaf at a place of a document. -/
def leafAt (element : Element) (offset : Nat) : Leaf where
  start := offset
  stop := offset + octetCount element.source
  name := element.name
  attributes := element.attributes
  region := element.region

/-- The element with another region between its tags. -/
def refill (element : Element) (region : List Char) (hne : region ≠ []) (hplain : '<' ∉ region) :
    Element :=
  { element with region, region_ne_nil := hne, region_plain := hplain }

@[ext] theorem ext_fields {first second : Element} (hname : first.name = second.name)
    (hattributes : first.attributes = second.attributes) (hregion : first.region = second.region) :
    first = second := by
  cases first
  cases second
  simp_all

theorem source_append (element : Element) (rest : List Char) :
    element.source ++ rest = '<' :: (element.tag ++ '>' :: (element.region ++
      '<' :: '/' :: (element.name ++ '>' :: rest))) := by
  simp [source, tag]

theorem source_eq_tags (element : Element) :
    element.source = ('<' :: element.name ++ element.attributes ++ ['>']) ++ element.region ++
      ('<' :: '/' :: element.name ++ ['>']) := by
  simp [source]

theorem tag_plain (element : Element) : '>' ∉ element.tag := by
  rw [tag, List.mem_append, not_or]
  exact ⟨element.isName.tagEnd_notMem, element.attributes_plain⟩

theorem source_ne_nil (element : Element) : element.source ≠ [] :=
  List.cons_ne_nil _ _

theorem octetCount_source_pos (element : Element) : 0 < octetCount element.source :=
  Nat.pos_of_ne_zero fun h ↦ element.source_ne_nil (eq_nil_of_octetCount_eq_zero h)

end Element

/-- Two ways to divide a text at an item are one if neither of the items stands before the other. -/
theorem append_cons_inj {α : Type} {x y : α} {first after second rest : List α}
    (h : first ++ x :: after = second ++ y :: rest) (hx : x ∉ second) (hy : y ∉ first) :
    first = second ∧ x = y ∧ after = rest := by
  induction first generalizing second with
  | nil =>
    cases second with
    | nil => exact ⟨rfl, List.cons.inj h⟩
    | cons z second =>
      obtain ⟨rfl, -⟩ := List.cons.inj h
      exact absurd List.mem_cons_self hx
  | cons z first ih =>
    cases second with
    | nil =>
      obtain ⟨rfl, -⟩ := List.cons.inj h
      exact absurd List.mem_cons_self hy
    | cons w second =>
      obtain ⟨rfl, htail⟩ := List.cons.inj h
      obtain ⟨rfl, hrest⟩ := ih htail (fun hmem ↦ hx (List.mem_cons_of_mem _ hmem))
        (fun hmem ↦ hy (List.mem_cons_of_mem _ hmem))
      exact ⟨rfl, hrest⟩

/-- What stands between the opening bracket of a close tag and the next opening bracket begins with
the rest of the close tag. -/
theorem exists_closing_eq {name closing after rest : List Char} (hstart : '<' ∉ name)
    (hend : '>' ∉ name) (h : closing ++ '<' :: after = '/' :: (name ++ '>' :: rest)) :
    ∃ between, closing = '/' :: (name ++ '>' :: between) := by
  cases closing with
  | nil => exact absurd (List.cons.inj h).1 (by decide)
  | cons slash closing =>
    rw [List.cons_append] at h
    obtain ⟨rfl, hname⟩ := List.cons.inj h
    by_cases hended : '>' ∈ closing
    · obtain ⟨first, between, rfl, hfirst⟩ := List.eq_append_cons_of_mem hended
      rw [List.append_assoc, List.cons_append] at hname
      obtain ⟨rfl, -, -⟩ := append_cons_inj hname hend hfirst
      exact ⟨between, rfl⟩
    · obtain ⟨-, habsurd, -⟩ := append_cons_inj hname hstart hended
      exact absurd habsurd (by decide)

namespace Element

/-- A text begins with one element at most. -/
theorem source_append_inj {first second : Element} {rest more : List Char}
    (h : first.source ++ rest = second.source ++ more) : first = second ∧ rest = more := by
  rw [source_append, source_append] at h
  obtain ⟨htag, -, hopened⟩ :=
    append_cons_inj (List.cons.inj h).2 second.tag_plain first.tag_plain
  obtain ⟨hregion, -, hclosing⟩ :=
    append_cons_inj hopened second.region_plain first.region_plain
  obtain ⟨hname, -, hrest⟩ := append_cons_inj (List.cons.inj hclosing).2
    second.isName.tagEnd_notMem first.isName.tagEnd_notMem
  refine ⟨ext_fields hname ?_ hregion, hrest⟩
  rw [tag, tag, hname] at htag
  exact List.append_cancel_left htag

/-- An element whose open tag ends before another element begins also ends before that: the other
one begins a tag, but with a letter where a close tag has its slash. -/
theorem ends_before_of_tagEnd_mem {first second : Element} {gap rest more : List Char}
    (h : first.source ++ rest = '<' :: gap ++ second.source ++ more) (hend : '>' ∈ gap) :
    ∃ between, '<' :: gap = first.source ++ between := by
  rw [source_append, List.cons_append, List.cons_append, List.append_assoc, source_append] at h
  obtain ⟨tag, opened, rfl, htag⟩ := List.eq_append_cons_of_mem hend
  have htags := (List.cons.inj h).2
  rw [List.append_assoc, List.cons_append] at htags
  obtain ⟨rfl, -, hopened⟩ := append_cons_inj htags htag first.tag_plain
  by_cases hstart : '<' ∈ opened
  · obtain ⟨region, closing, rfl, hregion⟩ := List.eq_append_cons_of_mem hstart
    rw [List.append_assoc, List.cons_append] at hopened
    obtain ⟨rfl, -, hclosing⟩ := append_cons_inj hopened hregion first.region_plain
    obtain ⟨between, rfl⟩ :=
      exists_closing_eq first.isName.tagStart_notMem first.isName.tagEnd_notMem hclosing.symm
    exact ⟨between, by rw [source_append]⟩
  · obtain ⟨-, -, hslash⟩ := append_cons_inj hopened hstart first.region_plain
    obtain ⟨letter, others, hname, hletter, -⟩ := second.isName
    rw [tag, hname] at hslash
    obtain ⟨rfl, -⟩ := List.cons.inj hslash
    exact absurd hletter (by decide)

/-- An element whose open tag is still open where another element begins takes in the other's open
tag and has region and close tag in common with it. -/
theorem shares_of_tagEnd_notMem {first second : Element} {gap rest more : List Char}
    (h : first.source ++ rest = '<' :: gap ++ second.source ++ more) (hend : '>' ∉ gap) :
    first.tag = gap ++ '<' :: second.tag ∧ first.region = second.region ∧
      first.name = second.name := by
  rw [source_append, List.cons_append, List.cons_append, List.append_assoc, source_append] at h
  have htags := (List.cons.inj h).2
  have hplain : '>' ∉ gap ++ '<' :: second.tag := by
    simp [hend, second.tag_plain]
  rw [← List.cons_append (a := '<'), ← List.append_assoc] at htags
  obtain ⟨htag, -, hopened⟩ := append_cons_inj htags hplain first.tag_plain
  obtain ⟨hregion, -, hclosing⟩ :=
    append_cons_inj hopened second.region_plain first.region_plain
  obtain ⟨hname, -, -⟩ := append_cons_inj (List.cons.inj hclosing).2
    second.isName.tagEnd_notMem first.isName.tagEnd_notMem
  exact ⟨htag, hregion, hname⟩

end Element

end LeafLayout.Markup
