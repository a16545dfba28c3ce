/-!
Places in a text, counted in octets. A text is a list of items that take up room, characters with
their encoded length or plain octets; a cursor is an offset together with the items from there on.
Cutting a text at an offset fails where the offset is inside an item or past the end.
-/

set_option autoImplicit false

namespace LeafLayout.Text

class Roomy (α : Type) where
  room : α → Nat
  room_pos : ∀ x, 0 < room x

instance : Roomy Char := ⟨Char.utf8Size, Char.utf8Size_pos⟩

instance : Roomy UInt8 := ⟨fun _ ↦ 1, fun _ ↦ Nat.one_pos⟩

open Roomy

variable {α : Type} [Roomy α]

/-- The length of a text in octets. -/
def octetCount (text : List α) : Nat :=
  text.foldr (fun x count ↦ room x + count) 0

def cut? : Nat → List α → Option (List α × List α)
  | 0, text => some ([], text)
  | _ + 1, [] => none
  | n + 1, x :: rest =>
    if room x ≤ n + 1 then
      (cut? (n + 1 - room x) rest).map fun parts ↦ (x :: parts.1, parts.2)
    else none

structure Cursor (α : Type) where
  offset : Nat
  rest : List α

namespace Cursor

def start (text : List α) : Cursor α :=
  ⟨0, text⟩

/-- Past the next item. -/
def next (cursor : Cursor α) : Cursor α :=
  match cursor.rest with
  | [] => cursor
  | x :: rest => ⟨cursor.offset + room x, rest⟩

/-- The text up to an offset further on, and the cursor there. -/
def cutAt? (cursor : Cursor α) (offset : Nat) : Option (List α × Cursor α) :=
  if cursor.offset ≤ offset then
    (cut? (offset - cursor.offset) cursor.rest).map fun parts ↦ (parts.1, ⟨offset, parts.2⟩)
  else none

def seekFrom [DecidableEq α] (target : α) (offset : Nat) : List α → Option (Cursor α)
  | [] => none
  | x :: rest =>
    if x = target then some ⟨offset, x :: rest⟩ else seekFrom target (offset + room x) rest

/-- The first place from here on where the target stands. -/
def seek [DecidableEq α] (cursor : Cursor α) (target : α) : Option (Cursor α) :=
  seekFrom target cursor.offset cursor.rest

def passFrom (passes : α → Bool) (offset : Nat) : List α → Cursor α
  | [] => ⟨offset, []⟩
  | x :: rest => if passes x then passFrom passes (offset + room x) rest else ⟨offset, x :: rest⟩

/-- Past all the items next to here that pass a test. -/
def pass (cursor : Cursor α) (passes : α → Bool) : Cursor α :=
  passFrom passes cursor.offset cursor.rest

end Cursor

theorem octetCount_nil : octetCount ([] : List α) = 0 := rfl

theorem octetCount_cons (x : α) (text : List α) :
    octetCount (x :: text) = room x + octetCount text := rfl

theorem octetCount_append (first second : List α) :
    octetCount (first ++ second) = octetCount first + octetCount second := by
  induction first with
  | nil => rw [List.nil_append, octetCount_nil, Nat.zero_add]
  | cons x first ih => rw [List.cons_append, octetCount_cons, octetCount_cons, ih, Nat.add_assoc]

/-- A cut gives back the text in two parts, the first as long as was asked for. -/
theorem cut?_eq_some_iff (n : Nat) (text before after : List α) :
    cut? n text = some (before, after) ↔ text = before ++ after ∧ octetCount before = n := by
  induction text generalizing n before with
  | nil =>
    cases n with
    | zero =>
      constructor
      · intro h
        simp only [cut?, Option.some.injEq, Prod.mk.injEq] at h
        obtain ⟨rfl, rfl⟩ := h
        exact ⟨rfl, rfl⟩
      · rintro ⟨htext, _⟩
        obtain ⟨rfl, rfl⟩ := List.append_eq_nil_iff.mp htext.symm
        rfl
    | succ n =>
      constructor
      · intro h
        simp [cut?] at h
      · rintro ⟨htext, hcount⟩
        obtain ⟨rfl, rfl⟩ := List.append_eq_nil_iff.mp htext.symm
        simp [octetCount] at hcount
  | cons x rest ih =>
    have hpos := room_pos x
    cases n with
    | zero =>
      constructor
      · intro h
        simp only [cut?, Option.some.injEq, Prod.mk.injEq] at h
        obtain ⟨rfl, rfl⟩ := h
        exact ⟨rfl, rfl⟩
      · rintro ⟨htext, hcount⟩
        cases before with
        | nil => simp_all [cut?]
        | cons y before =>
          have := room_pos y
          rw [octetCount_cons] at hcount
          omega
    | succ n =>
      by_cases hroom : room x ≤ n + 1
      · constructor
        · intro h
          simp only [cut?, if_pos hroom, Option.map_eq_some_iff, Prod.mk.injEq] at h
          obtain ⟨⟨front, back⟩, hcut, rfl, rfl⟩ := h
          obtain ⟨rfl, hcount⟩ := (ih _ _).mp hcut
          refine ⟨rfl, ?_⟩
          rw [octetCount_cons, hcount]
          omega
        · rintro ⟨htext, hcount⟩
          cases before with
          | nil => simp [octetCount] at hcount
          | cons y before =>
            obtain ⟨rfl, hrest⟩ := List.cons.inj htext
            rw [octetCount_cons] at hcount
            have hcut := (ih (n + 1 - room x) before).mpr ⟨hrest, by omega⟩
            simp [cut?, hroom, hcut]
      · constructor
        · intro h
          simp [cut?, hroom] at h
        · rintro ⟨htext, hcount⟩
          cases before with
          | nil => simp [octetCount] at hcount
          | cons y before =>
            obtain ⟨rfl, _⟩ := List.cons.inj htext
            rw [octetCount_cons] at hcount
            omega

end LeafLayout.Text
