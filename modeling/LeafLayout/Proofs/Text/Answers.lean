import LeafLayout.Proofs.Text.Places

/-!
What a search answers that is asked for an octet again and again. From wherever it is asked, further
on, further back or past the end of the text, it names the first place from there on where the octet
stands, and it does so as well when it answers from memory: what it found from further back is still
the first, if it is not behind the place asked from.
-/

set_option autoImplicit false

namespace LeafLayout.Text

/-- The place that so many octets stand before; past the end of the text nothing is left. -/
def placeAt (text : List UInt8) (offset : Nat) : Cursor UInt8 :=
  ⟨offset, text.drop offset⟩

/-- The first place from an offset on where an octet stands, or none if it stands nowhere from there
on. -/
def IsFirstFrom (text : List UInt8) (octet : UInt8) (offset : Nat) : Option Nat → Prop
  | some place => offset ≤ place ∧ text[place]? = some octet ∧
      ∀ i, offset ≤ i → i < place → text[i]? ≠ some octet
  | none => ∀ i, offset ≤ i → text[i]? ≠ some octet

theorem octetCount_eq_length (text : List UInt8) : octetCount text = text.length := by
  induction text with
  | nil => rfl
  | cons x text ih =>
    rw [octetCount_cons, ih, List.length_cons, Nat.add_comm]
    rfl

theorem isFirstFrom_seek (text : List UInt8) (octet : UInt8) (offset : Nat) :
    IsFirstFrom text octet offset (((placeAt text offset).seek octet).map (·.offset)) := by
  cases hseek : (placeAt text offset).seek octet with
  | none =>
    have habsent : octet ∉ text.drop offset := (Cursor.seek_eq_none_iff _ _).mp hseek
    intro i hi hoctet
    refine habsent (List.mem_of_getElem? (i := i - offset) ?_)
    rw [List.getElem?_drop, Nat.add_sub_cancel' hi]
    exact hoctet
  | some found =>
    obtain ⟨skipped, rest, hrest, habsent, rfl⟩ := (Cursor.seek_eq_some_iff _ _ _).mp hseek
    change text.drop offset = skipped ++ octet :: rest at hrest
    have hstands (i : Nat) : text[offset + i]? = (skipped ++ octet :: rest)[i]? := by
      rw [← hrest, List.getElem?_drop]
    rw [Option.map_some, octetCount_eq_length]
    refine ⟨Nat.le_add_right _ _, ?_, fun i hi hbefore hoctet ↦ ?_⟩
    · refine (hstands skipped.length).trans ?_
      rw [List.getElem?_append_right (Nat.le_refl _), Nat.sub_self]
      rfl
    · obtain ⟨j, rfl⟩ := Nat.exists_eq_add_of_le hi
      have hj : j < skipped.length := Nat.lt_of_add_lt_add_left hbefore
      rw [hstands, List.getElem?_append_left hj] at hoctet
      exact habsent (List.mem_of_getElem? hoctet)

/-- What comes first from further back comes first from here, if it is not behind. -/
theorem IsFirstFrom.later {text : List UInt8} {octet : UInt8} {offset later : Nat}
    {found : Option Nat} (h : IsFirstFrom text octet offset found) (hle : offset ≤ later)
    (hfound : ∀ place, found = some place → later ≤ place) :
    IsFirstFrom text octet later found := by
  cases found with
  | none => exact fun i hi ↦ h i (Nat.le_trans hle hi)
  | some place =>
    obtain ⟨-, hoctet, hbefore⟩ := h
    exact ⟨hfound place rfl, hoctet, fun i hi ↦ hbefore i (Nat.le_trans hle hi)⟩

namespace Search

/-- What the search remembers comes first from where it looked last. -/
def Knows (search : Search UInt8) (text : List UInt8) (octet : UInt8) : Prop :=
  ∀ offset, search.lookedFrom = some offset →
    IsFirstFrom text octet offset (search.answer.map (·.offset))

theorem knows_fresh (text : List UInt8) (octet : UInt8) :
    ({} : Search UInt8).Knows text octet := by
  intro offset hoffset
  cases hoffset

/-- Asked once more, it answers rightly and knows what it has answered. -/
theorem Knows.ask {search : Search UInt8} {text : List UInt8} {octet : UInt8}
    (hsearch : search.Knows text octet) (offset : Nat) :
    IsFirstFrom text octet offset
        ((search.ask octet (placeAt text offset)).answer.map (·.offset)) ∧
      (search.ask octet (placeAt text offset)).Knows text octet := by
  by_cases hserves : search.stillServes (placeAt text offset).offset = true
  · rw [ask_of_serves hserves]
    refine ⟨?_, hsearch⟩
    rw [stillServes, Bool.and_eq_true, Option.any_eq_true] at hserves
    obtain ⟨⟨back, hlooked, hle⟩, hall⟩ := hserves
    refine (hsearch back hlooked).later (of_decide_eq_true hle) fun place hplace ↦ ?_
    obtain ⟨found, hfound, rfl⟩ := Option.map_eq_some_iff.mp hplace
    rw [hfound] at hall
    exact of_decide_eq_true hall
  · rw [ask_of_not_serves hserves]
    refine ⟨isFirstFrom_seek text octet offset, fun looked hlooked ↦ ?_⟩
    obtain rfl : offset = looked := Option.some.inj hlooked
    exact isFirstFrom_seek text octet offset

/-- The answers of one search, asked from one offset after the other. -/
def answers (text : List UInt8) (octet : UInt8) : Search UInt8 → List Nat → List (Option Nat)
  | _, [] => []
  | search, offset :: more =>
    let asked := search.ask octet (placeAt text offset)
    asked.answer.map (·.offset) :: answers text octet asked more

theorem Knows.answers {search : Search UInt8} {text : List UInt8} {octet : UInt8}
    (hsearch : search.Knows text octet) (offsets : List Nat) :
    List.Forall₂ (IsFirstFrom text octet) offsets (search.answers text octet offsets) := by
  induction offsets generalizing search with
  | nil => exact .nil
  | cons offset offsets ih =>
    obtain ⟨hanswer, hasked⟩ := hsearch.ask offset
    exact .cons hanswer (ih hasked)

end Search

end LeafLayout.Text
