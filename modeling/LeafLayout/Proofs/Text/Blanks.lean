import LeafLayout.Text.Blank
import Mathlib.Data.List.TakeWhile

/-!
What stripping, squeezing and holding do to a text. Every text is its stripped core between blanks,
and the core is what neither begins nor ends with a blank. None of the three touches a character
that is not blank, and a core that was squeezed once is a core that squeezing leaves alone.
-/

set_option autoImplicit false

namespace LeafLayout.Text

/-- The characters of a text that are not blank, in order. -/
def nonblanks (text : List Char) : List Char :=
  text.filter fun c ↦ !isBlank c

def AllBlank (text : List Char) : Prop :=
  ∀ c ∈ text, isBlank c = true

instance (text : List Char) : Decidable (AllBlank text) :=
  decidable_of_iff (text.all isBlank = true) List.all_eq_true

/-- Neither the first character nor the last is blank. -/
def IsCore (text : List Char) : Prop :=
  (∀ c, text.head? = some c → isBlank c = false) ∧ ∀ c, text.getLast? = some c → isBlank c = false

theorem nonblanks_append (first second : List Char) :
    nonblanks (first ++ second) = nonblanks first ++ nonblanks second :=
  List.filter_append first second

theorem mem_nonblanks_iff (c : Char) (text : List Char) :
    c ∈ nonblanks text ↔ c ∈ text ∧ isBlank c = false := by
  simp [nonblanks]

theorem nonblanks_eq_nil_iff (text : List Char) : nonblanks text = [] ↔ AllBlank text := by
  simp [nonblanks, AllBlank, List.filter_eq_nil_iff]

theorem AllBlank.append {first second : List Char} (hfirst : AllBlank first)
    (hsecond : AllBlank second) : AllBlank (first ++ second) := by
  intro c hc
  rcases List.mem_append.mp hc with hc | hc
  · exact hfirst c hc
  · exact hsecond c hc

theorem allBlank_singleton {c : Char} (h : isBlank c = true) : AllBlank [c] := by
  intro d hd
  rwa [List.mem_singleton.mp hd]

theorem tagStart_notMem_of_allBlank {text : List Char} (h : AllBlank text) : '<' ∉ text :=
  fun hmem ↦ absurd (h '<' hmem) (by decide)

theorem IsCore.eq_nil_of_allBlank {text : List Char} (hcore : IsCore text)
    (hblank : AllBlank text) : text = [] := by
  rcases text with _ | ⟨c, text⟩
  · rfl
  · have hhead := hcore.1 c rfl
    rw [hblank c List.mem_cons_self] at hhead
    cases hhead

/-! ### Stripping -/

theorem dropWhile_isBlank_append {lead rest : List Char} (hlead : AllBlank lead)
    (hrest : ∀ c, rest.head? = some c → isBlank c = false) :
    (lead ++ rest).dropWhile isBlank = rest := by
  rw [List.dropWhile_append_of_pos hlead]
  rcases rest with _ | ⟨c, rest⟩
  · rfl
  · exact List.dropWhile_cons_of_neg (by simp [hrest c rfl])

/-- Blanks around a core are what stripping takes away. -/
theorem strip_append_append {lead core trail : List Char} (hlead : AllBlank lead)
    (hcore : IsCore core) (htrail : AllBlank trail) : strip (lead ++ core ++ trail) = core := by
  rcases core with _ | ⟨c, core⟩
  · have hblank := hlead.append htrail
    rw [List.append_nil, strip, stripLeft, List.dropWhile_eq_nil_iff.mpr hblank]
    rfl
  · have hleft : stripLeft (lead ++ c :: core ++ trail) = c :: core ++ trail := by
      rw [stripLeft, List.append_assoc]
      exact dropWhile_isBlank_append hlead fun d hd ↦ hcore.1 d hd
    have htrail' : AllBlank trail.reverse := fun d hd ↦ htrail d (List.mem_reverse.mp hd)
    rw [strip, hleft, stripRight, List.reverse_append, dropWhile_isBlank_append htrail',
      List.reverse_reverse]
    intro d hd
    rw [List.head?_reverse] at hd
    exact hcore.2 d hd

theorem head?_dropWhile_isBlank {text : List Char} {c : Char}
    (h : (text.dropWhile isBlank).head? = some c) : isBlank c = false := by
  have hnot := List.head?_dropWhile_not isBlank text
  rw [h] at hnot
  simpa using hnot

theorem allBlank_takeWhile (text : List Char) : AllBlank (text.takeWhile isBlank) :=
  fun _ hc ↦ List.mem_takeWhile_imp hc

theorem stripRight_append (text : List Char) :
    stripRight text ++ (text.reverse.takeWhile isBlank).reverse = text := by
  rw [stripRight, ← List.reverse_append, List.takeWhile_append_dropWhile, List.reverse_reverse]

theorem isCore_strip (text : List Char) : IsCore (strip text) := by
  constructor
  · intro c hc
    have hhead : (stripLeft text).head? = some c := by
      rw [← stripRight_append (stripLeft text), List.head?_append, ← strip, hc]
      rfl
    exact head?_dropWhile_isBlank hhead
  · intro c hc
    rw [strip, stripRight, List.getLast?_reverse] at hc
    exact head?_dropWhile_isBlank hc

/-- Every text is its stripped core between blanks. -/
theorem exists_strip_between (text : List Char) :
    ∃ lead trail, text = lead ++ strip text ++ trail ∧ AllBlank lead ∧ AllBlank trail := by
  refine ⟨text.takeWhile isBlank, ((stripLeft text).reverse.takeWhile isBlank).reverse, ?_,
    allBlank_takeWhile text, ?_⟩
  · rw [List.append_assoc, strip, stripRight_append]
    exact List.takeWhile_append_dropWhile.symm
  · exact fun c hc ↦ allBlank_takeWhile _ c (List.mem_reverse.mp hc)

theorem IsCore.strip_eq {text : List Char} (h : IsCore text) : strip text = text := by
  have hnone : AllBlank [] := fun _ hc ↦ by cases hc
  have hstrip := strip_append_append hnone h hnone
  rwa [List.nil_append, List.append_nil] at hstrip

theorem nonblanks_strip (text : List Char) : nonblanks (strip text) = nonblanks text := by
  obtain ⟨lead, trail, htext, hlead, htrail⟩ := exists_strip_between text
  have hparts := congrArg nonblanks htext
  rw [nonblanks_append, nonblanks_append, (nonblanks_eq_nil_iff lead).mpr hlead,
    (nonblanks_eq_nil_iff trail).mpr htrail, List.nil_append, List.append_nil] at hparts
  exact hparts.symm

theorem strip_eq_nil_iff (text : List Char) : strip text = [] ↔ AllBlank text := by
  rw [← nonblanks_eq_nil_iff, ← nonblanks_strip, nonblanks_eq_nil_iff]
  constructor
  · intro h
    rw [h]
    exact fun c hc ↦ by cases hc
  · exact (isCore_strip text).eq_nil_of_allBlank

/-! ### Squeezing -/

theorem nonblanks_squeezeAfter (afterBlank : Bool) (text : List Char) :
    nonblanks (squeezeAfter afterBlank text) = nonblanks text := by
  induction text generalizing afterBlank with
  | nil => rfl
  | cons c text ih =>
    by_cases hc : isBlank c = true
    · have hskip : nonblanks (c :: text) = nonblanks text := by
        simp [nonblanks, hc]
      rw [hskip, squeezeAfter, if_pos hc]
      split_ifs
      · exact ih true
      · exact ih true
    · have hkeep (rest : List Char) : nonblanks (c :: rest) = c :: nonblanks rest := by
        simp [nonblanks, hc]
      rw [squeezeAfter, if_neg hc, hkeep, hkeep, ih]

theorem nonblanks_squeeze (text : List Char) : nonblanks (squeeze text) = nonblanks text :=
  nonblanks_squeezeAfter false text

theorem squeezeAfter_squeezeAfter (afterBlank : Bool) (text : List Char) :
    squeezeAfter afterBlank (squeezeAfter afterBlank text) = squeezeAfter afterBlank text := by
  induction text generalizing afterBlank with
  | nil => rfl
  | cons c text ih =>
    by_cases hc : isBlank c = true
    · rcases afterBlank with _ | _
      · have hfirst : squeezeAfter false (c :: text) = ' ' :: squeezeAfter true text := by
          simp [squeezeAfter, hc]
        rw [hfirst, squeezeAfter, if_pos isBlank_space, if_neg (by decide), ih]
      · rw [squeezeAfter_of_blank text hc, ih]
    · rw [Bool.not_eq_true] at hc
      rw [squeezeAfter_of_not_blank afterBlank text hc,
        squeezeAfter_of_not_blank afterBlank _ hc, ih]

theorem squeeze_squeeze (text : List Char) : squeeze (squeeze text) = squeeze text :=
  squeezeAfter_squeezeAfter false text

theorem squeezeAfter_append_of_not_blank (afterBlank : Bool) (text : List Char) {c : Char}
    (hc : isBlank c = false) :
    squeezeAfter afterBlank (text ++ [c]) = squeezeAfter afterBlank text ++ [c] := by
  induction text generalizing afterBlank with
  | nil => exact squeezeAfter_of_not_blank afterBlank [] hc
  | cons d text ih =>
    rw [List.cons_append, squeezeAfter, squeezeAfter]
    split_ifs
    · exact ih true
    · rw [ih, List.cons_append]
    · rw [ih, List.cons_append]

theorem IsCore.squeeze {text : List Char} (h : IsCore text) : IsCore (squeeze text) := by
  constructor
  · intro c hc
    rcases text with _ | ⟨d, text⟩
    · cases hc
    · have hd := h.1 d rfl
      rw [Text.squeeze, squeezeAfter_of_not_blank false text hd] at hc
      obtain rfl := Option.some.inj hc
      exact hd
  · intro c hc
    rcases hlast : text.getLast? with _ | d
    · rw [List.getLast?_eq_none_iff.mp hlast] at hc
      cases hc
    · have hd := h.2 d hlast
      obtain ⟨front, rfl⟩ := List.getLast?_eq_some_iff.mp hlast
      rw [Text.squeeze, squeezeAfter_append_of_not_blank false front hd, List.getLast?_append] at hc
      obtain rfl := Option.some.inj hc
      exact hd

/-! ### Holding -/

theorem held_of_not_allBlank {region : List Char} (h : ¬ AllBlank region) :
    held region = strip region := by
  have hcore := mt (strip_eq_nil_iff region).mp h
  simp [held, hcore]

theorem isCore_held {region : List Char} (h : ¬ AllBlank region) : IsCore (held region) := by
  rw [held_of_not_allBlank h]
  exact isCore_strip region

/-- Of a core between blanks the core is held on to. -/
theorem held_append_append {lead core trail : List Char} (hlead : AllBlank lead)
    (hcore : IsCore core) (hne : core ≠ []) (htrail : AllBlank trail) :
    held (lead ++ core ++ trail) = core := by
  have hstrip := strip_append_append hlead hcore htrail
  rw [held_of_not_allBlank, hstrip]
  intro hblank
  rw [(strip_eq_nil_iff _).mpr hblank] at hstrip
  exact hne hstrip.symm

theorem held_of_allBlank {region : List Char} (h : AllBlank region) :
    held region = region.getLast?.toList := by
  simp [held, (strip_eq_nil_iff region).mpr h]

theorem nonblanks_held (region : List Char) : nonblanks (held region) = nonblanks region := by
  by_cases h : AllBlank region
  · rw [held_of_allBlank h, (nonblanks_eq_nil_iff region).mpr h, nonblanks_eq_nil_iff]
    intro c hc
    exact h c (List.mem_of_getLast? (Option.mem_toList.mp hc))
  · rw [held_of_not_allBlank h, nonblanks_strip]

/-- A region with something in it never holds nothing. -/
theorem held_ne_nil {region : List Char} (hne : region ≠ []) : held region ≠ [] := by
  by_cases hregion : AllBlank region
  · rw [held_of_allBlank hregion, Ne, Option.toList_eq_nil_iff, List.getLast?_eq_none_iff]
    exact hne
  · rw [held_of_not_allBlank hregion, Ne, strip_eq_nil_iff]
    exact hregion

theorem held_eq_strip_iff {region : List Char} (hne : region ≠ []) :
    held region = strip region ↔ ∃ c ∈ region, isBlank c = false := by
  have hblank : AllBlank region ↔ ¬ ∃ c ∈ region, isBlank c = false := by
    simp [AllBlank]
  constructor
  · intro hsame
    by_contra hnone
    have hempty := (strip_eq_nil_iff region).mpr (hblank.mpr hnone)
    exact held_ne_nil hne (hsame.trans hempty)
  · intro hshown
    exact held_of_not_allBlank fun hregion ↦ hblank.mp hregion hshown

end LeafLayout.Text
