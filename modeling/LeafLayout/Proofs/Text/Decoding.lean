import LeafLayout.Proofs.Text.Blanks
import LeafLayout.Text.Utf8
import Mathlib.Algebra.Ring.Nat
import Mathlib.Data.List.Basic

/-!
What reading makes of octets that are not well formed. Whatever stands around it, an ASCII octet is
read as its own character, and nothing else is read as an ASCII character: a character under way
only takes in octets that are not ASCII, and their bounds keep its value above ASCII and among the
code points.
-/

set_option autoImplicit false

namespace LeafLayout.Text.Utf8

def asciiChars (text : List Char) : List Char :=
  text.filter (·.toNat < 0x80)

/-- The characters of the ASCII octets. -/
def asciiRead (octets : List UInt8) : List Char :=
  (octets.filter (· < 0x80)).map fun b ↦ Char.ofNat b.toNat

/-- The ASCII octets that are not blank. -/
def marks (octets : List UInt8) : List UInt8 :=
  octets.filter fun b ↦ b < 0x80 && !isBlank (Char.ofNat b.toNat)

theorem toNat_ofNat {n : ℕ} (h : n.isValidChar) : (Char.ofNat n).toNat = n := by
  rw [Char.ofNat, dif_pos h]
  rfl

theorem isValidChar_toNat (b : UInt8) : b.toNat.isValidChar := by
  have hlt := b.toNat_lt
  rw [Nat.isValidChar]
  omega

/-! ### Characters under way -/

/-- Whatever the octets are that are owed, they complete the value to a code point outside ASCII. -/
def Completes : ℕ → ℕ → Prop
  | 0, value => 0x80 ≤ value ∧ value.isValidChar
  | owed + 1, value => ∀ n < 64, Completes owed (value * 64 + n)

/-- The values that have a value for their leading bits form an interval, so that its ends tell
whether all of them are code points outside ASCII. -/
theorem completes_of_bounds (owed value : ℕ) (hlow : 0x80 ≤ value * 64 ^ owed)
    (hvalid : (value + 1) * 64 ^ owed ≤ 0xD800 ∨
      0xE000 ≤ value * 64 ^ owed ∧ (value + 1) * 64 ^ owed ≤ 0x110000) :
    Completes owed value := by
  induction owed generalizing value with
  | zero =>
    rw [Nat.pow_zero, Nat.mul_one] at hlow hvalid
    refine ⟨hlow, ?_⟩
    rw [Nat.isValidChar]
    omega
  | succ owed ih =>
    intro n hn
    have hleast : value * 64 ^ (owed + 1) ≤ (value * 64 + n) * 64 ^ owed := by
      rw [Nat.pow_succ', ← Nat.mul_assoc]
      exact Nat.mul_le_mul_right _ (Nat.le_add_right _ n)
    have hgreatest : (value * 64 + n + 1) * 64 ^ owed ≤ (value + 1) * 64 ^ (owed + 1) := by
      rw [Nat.pow_succ', ← Nat.mul_assoc]
      exact Nat.mul_le_mul_right _ (by omega)
    exact ih (value * 64 + n) (by omega) (by omega)

/-- Inside a character no ASCII octet is taken in, and those that are lead outside ASCII. -/
def State.Sound : State → Prop
  | .between => True
  | .inside owed low high value =>
    0x80 ≤ low.toNat ∧ high.toNat ≤ 0xBF ∧
      ∀ n, low.toNat ≤ n + 0x80 → n + 0x80 ≤ high.toNat → Completes owed (value * 64 + n)

theorem sound_inside {owed value : ℕ} (h : Completes (owed + 1) value) :
    (State.inside owed 0x80 0xBF value).Sound := by
  refine ⟨Nat.le_refl _, Nat.le_refl _, fun n _ hhigh ↦ h n ?_⟩
  simp only [UInt8.reduceToNat] at hhigh
  omega

theorem sound_lead (b : UInt8) : (lead b).2.Sound := by
  unfold lead
  simp only [Bool.and_eq_true, decide_eq_true_eq, beq_iff_eq, UInt8.lt_iff_toNat_lt,
    UInt8.le_iff_toNat_le, ← UInt8.toNat_inj, UInt8.reduceToNat]
  split_ifs
  any_goals exact True.intro
  all_goals
    refine ⟨by decide, by decide, fun n hlow hhigh ↦ completes_of_bounds _ _ ?_ ?_⟩
    all_goals
      simp only [UInt8.reduceToNat] at hlow hhigh
      omega

theorem sound_step {state : State} (h : state.Sound) (b : UInt8) : (step state b).2.Sound := by
  rcases state with _ | ⟨owed, low, high, value⟩
  · exact sound_lead b
  · obtain ⟨hlow, hhigh, hcompletes⟩ := h
    rw [step]
    split_ifs with hwithin
    · simp only [Bool.and_eq_true, decide_eq_true_eq, UInt8.le_iff_toNat_le] at hwithin
      cases owed with
      | zero => exact True.intro
      | succ owed => exact sound_inside (hcompletes _ (by omega) (by omega))
    · exact sound_lead b

theorem asciiChars_lead (b : UInt8) : asciiChars (lead b).1 = asciiRead [b] := by
  have hvalue := toNat_ofNat (isValidChar_toNat b)
  by_cases hascii : b < 0x80
  · have hread : (lead b).1 = [Char.ofNat b.toNat] := by
      rw [lead, if_pos hascii]
    have hlt : b.toNat < 0x80 := UInt8.lt_iff_toNat_lt.mp hascii
    simp [hread, asciiChars, asciiRead, hascii, hvalue, hlt]
  · have hnone : asciiRead [b] = [] := by
      simp [asciiRead, hascii]
    rw [hnone, lead, if_neg hascii]
    split_ifs <;> rfl

/-- In a sound state an octet is read as an ASCII character just if it is one. -/
theorem asciiChars_step {state : State} (h : state.Sound) (b : UInt8) :
    asciiChars (step state b).1 = asciiRead [b] := by
  rcases state with _ | ⟨owed, low, high, value⟩
  · exact asciiChars_lead b
  · obtain ⟨hlow, hhigh, hcompletes⟩ := h
    rw [step]
    split_ifs with hwithin
    · simp only [Bool.and_eq_true, decide_eq_true_eq, UInt8.le_iff_toNat_le] at hwithin
      have hnone : asciiRead [b] = [] := by
        have hnot : ¬ b < 0x80 := by
          rw [UInt8.lt_iff_toNat_lt]
          exact Nat.not_lt.mpr (hlow.trans hwithin.1)
        simp [asciiRead, hnot]
      rw [hnone]
      cases owed with
      | zero =>
        obtain ⟨habove, hvalid⟩ := hcompletes (b.toNat - 0x80) (by omega) (by omega)
        simp [asciiChars, toNat_ofNat hvalid, habove]
      | succ owed => rfl
    · exact asciiChars_lead b

theorem asciiRead_cons (b : UInt8) (rest : List UInt8) :
    asciiRead (b :: rest) = asciiRead [b] ++ asciiRead rest := by
  rw [asciiRead, asciiRead, asciiRead, ← List.map_append, ← List.filter_append]
  rfl

/-- Induction on the octets: every state on the way is sound. -/
theorem asciiChars_decodeFrom {state : State} (h : state.Sound) (octets : List UInt8) :
    asciiChars (decodeFrom state octets) = asciiRead octets := by
  induction octets generalizing state with
  | nil => cases state <;> rfl
  | cons b rest ih =>
    have hrest := ih (sound_step h b)
    rw [decodeFrom_cons, asciiChars, List.filter_append, asciiRead_cons, ← hrest,
      ← asciiChars_step h b]
    rfl

theorem asciiChars_decode (octets : List UInt8) :
    asciiChars (decode octets) = asciiRead octets := by
  have hsound : State.between.Sound := True.intro
  exact asciiChars_decodeFrom hsound octets

/-! ### Marks -/

theorem nonblanks_asciiRead (octets : List UInt8) :
    nonblanks (asciiRead octets) = (marks octets).map fun b ↦ Char.ofNat b.toNat := by
  rw [asciiRead, nonblanks, List.filter_map, List.filter_filter, marks]
  simp only [Function.comp_apply, Bool.and_comm]

/-- Octets that are read as the same characters apart from blanks have the same marks. -/
theorem marks_eq_of_nonblanks_decode_eq {octets later : List UInt8}
    (h : nonblanks (decode later) = nonblanks (decode octets)) : marks later = marks octets := by
  have hmarks (octets : List UInt8) : (marks octets).map (fun b ↦ Char.ofNat b.toNat) =
      asciiChars (nonblanks (decode octets)) := by
    rw [← nonblanks_asciiRead, ← asciiChars_decode]
    simp only [nonblanks, asciiChars, List.filter_filter, Bool.and_comm]
  have hinjective : Function.Injective fun b : UInt8 ↦ Char.ofNat b.toNat := by
    intro b c hsame
    have hvalues := congrArg Char.toNat hsame
    rwa [toNat_ofNat (isValidChar_toNat b), toNat_ofNat (isValidChar_toNat c),
      UInt8.toNat_inj] at hvalues
  refine List.map_injective_iff.mpr hinjective ?_
  rw [hmarks, hmarks, h]

end LeafLayout.Text.Utf8
