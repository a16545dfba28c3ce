import LeafLayout.Text.Utf8
import Mathlib.Tactic.IntervalCases

/-!
Reading back what was written. The first octet of a character tells how many more are owed and which
values the next of them may have, and what encoding a character writes is never outside of these.
-/

set_option autoImplicit false

namespace LeafLayout.Text.Utf8

theorem lead_two {n : Nat} (hlow : 2 ≤ n) (hhigh : n < 32) :
    lead (UInt8.ofNat (n + 0xC0)) = ([], .inside 0 0x80 0xBF n) := by
  interval_cases n <;> rfl

theorem lead_three {n : Nat} (hhigh : n < 16) :
    lead (UInt8.ofNat (n + 0xE0)) =
      ([], .inside 1 (if n = 0 then 0xA0 else 0x80) (if n = 13 then 0x9F else 0xBF) n) := by
  interval_cases n <;> rfl

theorem lead_four {n : Nat} (hhigh : n < 5) :
    lead (UInt8.ofNat (n + 0xF0)) =
      ([], .inside 2 (if n = 0 then 0x90 else 0x80) (if n = 4 then 0x8F else 0xBF) n) := by
  interval_cases n <;> rfl

theorem decodeFrom_between {b : UInt8} {state : State} (rest : List UInt8)
    (h : lead b = ([], state)) : decodeFrom .between (b :: rest) = decodeFrom state rest := by
  rw [decodeFrom_cons, step, h, List.nil_append]

theorem toNat_tail {n : Nat} (hn : n < 64) : (UInt8.ofNat (n + 0x80)).toNat = n + 0x80 := by
  rw [UInt8.toNat_ofNat']
  omega

/-- An octet within the bounds brings in six more bits. -/
theorem step_inside (owed : Nat) {low high : UInt8} (value : Nat) {n : Nat} (hn : n < 64)
    (hlow : low.toNat ≤ n + 0x80) (hhigh : n + 0x80 ≤ high.toNat) :
    step (.inside owed low high value) (UInt8.ofNat (n + 0x80)) =
      match owed with
      | 0 => ([Char.ofNat (value * 64 + n)], .between)
      | owed + 1 => ([], .inside owed 0x80 0xBF (value * 64 + n)) := by
  have hbounds : (low ≤ UInt8.ofNat (n + 0x80) && UInt8.ofNat (n + 0x80) ≤ high) = true := by
    rw [Bool.and_eq_true, decide_eq_true_iff, decide_eq_true_iff, UInt8.le_iff_toNat_le,
      UInt8.le_iff_toNat_le, toNat_tail hn]
    exact ⟨hlow, hhigh⟩
  cases owed with
  | zero => simp only [step, hbounds, if_true, toNat_tail hn, Nat.add_sub_cancel]
  | succ owed => simp only [step, hbounds, if_true, toNat_tail hn, Nat.add_sub_cancel]

theorem decodeFrom_more (owed : Nat) {low high : UInt8} (value : Nat) {n : Nat} (rest : List UInt8)
    (hn : n < 64) (hlow : low.toNat ≤ n + 0x80) (hhigh : n + 0x80 ≤ high.toNat) :
    decodeFrom (.inside (owed + 1) low high value) (UInt8.ofNat (n + 0x80) :: rest) =
      decodeFrom (.inside owed 0x80 0xBF (value * 64 + n)) rest := by
  rw [decodeFrom_cons, step_inside (owed + 1) value hn hlow hhigh]
  rfl

theorem tail_bounds (n : Nat) :
    n % 64 < 64 ∧ (0x80 : UInt8).toNat ≤ n % 64 + 0x80 ∧ n % 64 + 0x80 ≤ (0xBF : UInt8).toNat := by
  simp only [UInt8.reduceToNat]
  omega

theorem decodeFrom_tail (owed value n : Nat) (rest : List UInt8) :
    decodeFrom (.inside (owed + 1) 0x80 0xBF value) (UInt8.ofNat (n % 64 + 0x80) :: rest) =
      decodeFrom (.inside owed 0x80 0xBF (value * 64 + n % 64)) rest :=
  decodeFrom_more owed value rest (tail_bounds n).1 (tail_bounds n).2.1 (tail_bounds n).2.2

theorem decodeFrom_last (value n : Nat) (rest : List UInt8) :
    decodeFrom (.inside 0 0x80 0xBF value) (UInt8.ofNat (n % 64 + 0x80) :: rest) =
      Char.ofNat (value * 64 + n % 64) :: decodeFrom .between rest := by
  rw [decodeFrom_cons,
    step_inside 0 value (tail_bounds n).1 (tail_bounds n).2.1 (tail_bounds n).2.2]
  rfl

theorem decodeFrom_encodeChar (c : Char) (rest : List UInt8) :
    decodeFrom .between (String.utf8EncodeChar c ++ rest) = c :: decodeFrom .between rest := by
  have hvalid : c.val.toNat < 0xD800 ∨ 0xDFFF < c.val.toNat ∧ c.val.toNat < 0x110000 := c.valid
  have hread {n : Nat} (hn : n = c.val.toNat) :
      Char.ofNat n :: decodeFrom .between rest = c :: decodeFrom .between rest := by
    rw [hn]
    exact congrArg (· :: _) (Char.ofNat_toNat c)
  rw [String.utf8EncodeChar]
  generalize c.val.toNat = v at hvalid hread ⊢
  split_ifs with hone htwo hthree
  · have hoctet : (UInt8.ofNat v).toNat = v := by
      rw [UInt8.toNat_ofNat']
      omega
    have hascii : UInt8.ofNat v < 0x80 := by
      rw [UInt8.lt_iff_toNat_lt, hoctet]
      exact Nat.lt_succ_of_le hone
    rw [List.singleton_append, decodeFrom_cons, step, lead, if_pos hascii, hoctet]
    exact hread rfl
  · have hlead := @lead_two (v / 64 % 32) (by omega) (by omega)
    rw [List.cons_append, decodeFrom_between _ hlead, List.singleton_append, decodeFrom_last]
    exact hread (by omega)
  · have hlead := @lead_three (v / 4096 % 16) (by omega)
    rw [List.cons_append, decodeFrom_between _ hlead, List.cons_append, List.singleton_append,
      decodeFrom_more _ _ _ (tail_bounds _).1, decodeFrom_last]
    · exact hread (by omega)
    · split_ifs <;> simp only [UInt8.reduceToNat] <;> omega
    · split_ifs <;> simp only [UInt8.reduceToNat] <;> omega
  · have hlead := @lead_four (v / 262144 % 8) (by omega)
    rw [List.cons_append, decodeFrom_between _ hlead, List.cons_append, List.cons_append,
      List.singleton_append, decodeFrom_more _ _ _ (tail_bounds _).1, decodeFrom_tail,
      decodeFrom_last]
    · exact hread (by omega)
    · split_ifs <;> simp only [UInt8.reduceToNat] <;> omega
    · split_ifs <;> simp only [UInt8.reduceToNat] <;> omega

theorem decode_encode (text : List Char) : decode (encode text) = text := by
  unfold decode
  induction text with
  | nil => rfl
  | cons c text ih =>
    have hcons : encode (c :: text) = String.utf8EncodeChar c ++ encode text := rfl
    rw [hcons, decodeFrom_encodeChar, ih]

end LeafLayout.Text.Utf8
