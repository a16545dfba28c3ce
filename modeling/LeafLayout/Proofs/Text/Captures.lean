import LeafLayout.Proofs.Text.Blanks

/-!
What is held of a region, as a choice among the ways to read it. A region can be read as blanks, a
core that is not empty and blanks again, in as many ways as its outer blanks can be shared out. The
reading chosen takes as many blanks in front as it can, and then as little into the core as it can.
Where something in the region is not blank the core is what stripping leaves, because a core with
less cannot be; where all is blank the core still has to be something, and the last blank is left to
it.
-/

set_option autoImplicit false

namespace LeafLayout.Text

/-- Blanks at the front of a text end at the latest where something that is not blank stands. -/
theorem length_le_of_allBlank {lead rest first second : List Char} {c : Char}
    (h : lead ++ c :: rest = first ++ second) (hc : isBlank c = false) (hfirst : AllBlank first) :
    first.length ≤ lead.length := by
  by_contra hlonger
  have hfound : (first ++ second)[lead.length]? = some c := by
    rw [← h, List.getElem?_append_right (Nat.le_refl _), Nat.sub_self]
    rfl
  rw [List.getElem?_append_left (Nat.lt_of_not_le hlonger)] at hfound
  have hblank := hfirst c (List.mem_of_getElem? hfound)
  rw [hc] at hblank
  exact Bool.false_ne_true hblank

/-- One way to read a region. -/
@[ext]
structure Capture (region : List Char) where
  lead : List Char
  core : List Char
  trail : List Char
  source_eq : lead ++ core ++ trail = region
  lead_blank : AllBlank lead
  core_ne_nil : core ≠ []
  trail_blank : AllBlank trail

namespace Capture

variable {region : List Char}

/-- More blanks in front come first, and after the same blanks in front a shorter core does. -/
def Precedes (first second : Capture region) : Prop :=
  second.lead.length < first.lead.length ∨
    first.lead.length = second.lead.length ∧ first.core.length < second.core.length

theorem length_eq (capture : Capture region) :
    capture.lead.length + capture.core.length + capture.trail.length = region.length := by
  rw [← List.length_append, ← List.length_append, capture.source_eq]

theorem core_length_pos (capture : Capture region) : 0 < capture.core.length :=
  List.length_pos_iff.mpr capture.core_ne_nil

/-- Two readings whose parts are equally long are one. -/
theorem eq_of_length_eq {first second : Capture region}
    (hlead : first.lead.length = second.lead.length)
    (hcore : first.core.length = second.core.length) : first = second := by
  have hsource := first.source_eq.trans second.source_eq.symm
  have hfront : (first.lead ++ first.core).length = (second.lead ++ second.core).length := by
    rw [List.length_append, List.length_append, hlead, hcore]
  obtain ⟨hparts, htrail⟩ := List.append_inj hsource hfront
  obtain ⟨hleads, hcores⟩ := List.append_inj hparts hlead
  ext1
  · exact hleads
  · exact hcores
  · exact htrail

theorem eq_or_precedes {first second : Capture region}
    (hlead : second.lead.length ≤ first.lead.length)
    (hcore : first.lead.length = second.lead.length → first.core.length ≤ second.core.length) :
    second = first ∨ first.Precedes second := by
  rcases Nat.lt_or_eq_of_le hlead with hmore | hsame
  · exact Or.inr (Or.inl hmore)
  · rcases Nat.lt_or_eq_of_le (hcore hsame.symm) with hshorter | hequal
    · exact Or.inr (Or.inr ⟨hsame.symm, hshorter⟩)
    · exact Or.inl (eq_of_length_eq hsame hequal.symm)

/-- Around a core that neither begins nor ends with a blank no reading has more blanks, in front or
behind. -/
theorem lengths_le_of_isCore {capture : Capture region} (hcore : IsCore capture.core)
    (other : Capture region) :
    other.lead.length ≤ capture.lead.length ∧ other.trail.length ≤ capture.trail.length := by
  have hsource := capture.source_eq.trans other.source_eq.symm
  constructor
  · obtain ⟨c, more, hhead⟩ := List.exists_cons_of_ne_nil capture.core_ne_nil
    rw [hhead, List.append_assoc, List.cons_append, List.append_assoc] at hsource
    exact length_le_of_allBlank hsource (hcore.1 c (by rw [hhead, List.head?_cons]))
      other.lead_blank
  · -- From behind, the blanks at the end are those in front.
    have hback := congrArg List.reverse hsource
    obtain ⟨c, more, hlast⟩ :=
      List.exists_cons_of_ne_nil (mt List.reverse_eq_nil_iff.mp capture.core_ne_nil)
    rw [List.reverse_append, List.reverse_append, hlast, List.cons_append, List.reverse_append]
      at hback
    have hshown : isBlank c = false := by
      apply hcore.2
      rw [← List.head?_reverse, hlast, List.head?_cons]
    have hbehind : AllBlank other.trail.reverse :=
      fun d hd ↦ other.trail_blank d (List.mem_reverse.mp hd)
    have hle := length_le_of_allBlank hback hshown hbehind
    rwa [List.length_reverse, List.length_reverse] at hle

/-- A core that neither begins nor ends with a blank is the one chosen. -/
theorem precedes_of_isCore {capture : Capture region} (hcore : IsCore capture.core)
    (other : Capture region) : other = capture ∨ capture.Precedes other := by
  obtain ⟨hlead, htrail⟩ := lengths_le_of_isCore hcore other
  refine eq_or_precedes hlead fun hsame ↦ ?_
  have hlength := capture.length_eq
  have hother := other.length_eq
  omega

/-- A core of one character with nothing behind it is the one chosen. -/
theorem precedes_of_length_core_eq_one {capture : Capture region} (hcore : capture.core.length = 1)
    (htrail : capture.trail = []) (other : Capture region) :
    other = capture ∨ capture.Precedes other := by
  have hpos := other.core_length_pos
  have hlength := capture.length_eq
  have hother := other.length_eq
  rw [htrail, List.length_nil] at hlength
  exact eq_or_precedes (by omega) fun _ ↦ by omega

/-- The reading of blanks that leaves the last of them to the core. -/
def ofAllBlank (hregion : AllBlank region) (hne : region ≠ []) : Capture region where
  lead := region.dropLast
  core := [region.getLast hne]
  trail := []
  source_eq := by rw [List.append_nil, List.dropLast_concat_getLast]
  lead_blank := fun c hc ↦ hregion c (List.dropLast_subset region hc)
  core_ne_nil := List.cons_ne_nil _ _
  trail_blank := fun c hc ↦ absurd hc List.not_mem_nil

end Capture

/-- Among all ways to read a region that is not empty, one comes before every other, the one with
the most blanks in front and after them the shortest core, and its core is what is held of the
region. That is never nothing, and it is the stripped region just if something in the region is not
blank. -/
theorem held_is_preferred_core (region : List Char) (hne : region ≠ []) :
    (∃ capture : Capture region, capture.core = held region ∧
      ∀ other : Capture region, other = capture ∨ capture.Precedes other) ∧
    held region ≠ [] ∧
    (held region = strip region ↔ ∃ c ∈ region, isBlank c = false) := by
  refine ⟨?_, held_ne_nil hne, held_eq_strip_iff hne⟩
  by_cases hregion : AllBlank region
  · refine ⟨.ofAllBlank hregion hne, ?_, Capture.precedes_of_length_core_eq_one rfl rfl⟩
    rw [held_of_allBlank hregion, List.getLast?_eq_some_getLast hne]
    rfl
  · obtain ⟨lead, trail, hparts, hlead, htrail⟩ := exists_strip_between region
    rw [← held_of_not_allBlank hregion] at hparts
    refine ⟨⟨lead, held region, trail, hparts.symm, hlead, held_ne_nil hne, htrail⟩, rfl, ?_⟩
    exact Capture.precedes_of_isCore (isCore_held hregion)

/-- Of three blanks the last one is held, though stripping leaves nothing. -/
theorem held_is_preferred_core_of_blanks :
    let region := "\n\u3000\t".toList
    region ≠ [] ∧
      (∃ capture : Capture region, capture.core = ['\t'] ∧
        ∀ other : Capture region, other = capture ∨ capture.Precedes other) ∧
      held region ≠ strip region := by
  intro region
  have hne : region ≠ [] := by decide
  have hblank : AllBlank region := by decide
  obtain ⟨⟨capture, hcore, hfirst⟩, -, hstrip⟩ := held_is_preferred_core region hne
  refine ⟨hne, ⟨capture, hcore.trans (by decide), hfirst⟩, ?_⟩
  rw [Ne, hstrip]
  rintro ⟨c, hc, hshown⟩
  exact Bool.false_ne_true (hshown.symm.trans (hblank c hc))

end LeafLayout.Text
