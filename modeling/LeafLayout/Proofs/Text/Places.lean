import LeafLayout.Text.Search
import Mathlib.Data.List.Basic

/-!
Places in a document. A cursor is a place in a document when its offset is the room that the text
before it takes up. Two places of one document differ by the text between them, so that the offset
decides the place. Seeking, passing and cutting are said in terms of that text, and a search that
only recalls what it saw in the document answers as a fresh one would.
-/

set_option autoImplicit false

namespace LeafLayout.Text

open Roomy

variable {α : Type} [Roomy α]

theorem octetCount_singleton (x : α) : octetCount [x] = room x := by
  rw [octetCount_cons, octetCount_nil, Nat.add_zero]

theorem eq_nil_of_octetCount_eq_zero {text : List α} (h : octetCount text = 0) : text = [] := by
  cases text with
  | nil => rfl
  | cons x rest =>
    have hpos := room_pos x
    rw [octetCount_cons] at h
    omega

/-- Of two ways to divide one text, the later differs from the earlier by the text between. -/
theorem exists_between_of_append_eq {first after second rest : List α}
    (h : first ++ after = second ++ rest) (hle : octetCount first ≤ octetCount second) :
    ∃ between, second = first ++ between ∧ after = between ++ rest := by
  rcases List.append_eq_append_iff.mp h with ⟨between, hsecond, hafter⟩ | ⟨between, hfirst, hrest⟩
  · exact ⟨between, hsecond, hafter⟩
  · rw [hfirst, octetCount_append] at hle
    have hnil : between = [] := eq_nil_of_octetCount_eq_zero (by omega)
    subst hnil
    exact ⟨[], by simpa using hfirst.symm, by simpa using hrest.symm⟩

namespace Cursor

def IsIn (place : Cursor α) (document : List α) : Prop :=
  ∃ before, document = before ++ place.rest ∧ octetCount before = place.offset

theorem start_isIn (document : List α) : (start document).IsIn document :=
  ⟨[], rfl, rfl⟩

theorem IsIn.advance {place : Cursor α} {document passed rest : List α}
    (hplace : place.IsIn document) (hrest : place.rest = passed ++ rest) :
    (⟨place.offset + octetCount passed, rest⟩ : Cursor α).IsIn document := by
  obtain ⟨before, hdocument, hcount⟩ := hplace
  refine ⟨before ++ passed, ?_, ?_⟩
  · rw [hdocument, hrest, List.append_assoc]
  · rw [octetCount_append, hcount]

theorem IsIn.next {place : Cursor α} {document : List α} (hplace : place.IsIn document) :
    place.next.IsIn document := by
  obtain ⟨offset, rest⟩ := place
  rcases rest with _ | ⟨x, rest⟩
  · exact hplace
  · have hnext := hplace.advance (show x :: rest = [x] ++ rest from rfl)
    rwa [octetCount_singleton] at hnext

theorem IsIn.exists_between {first second : Cursor α} {document : List α}
    (hfirst : first.IsIn document) (hsecond : second.IsIn document)
    (hle : first.offset ≤ second.offset) :
    ∃ passed, first.rest = passed ++ second.rest ∧
      second.offset = first.offset + octetCount passed := by
  obtain ⟨before, hdocument, hcount⟩ := hfirst
  obtain ⟨longer, hdocument', hcount'⟩ := hsecond
  obtain ⟨passed, hlonger, hrest⟩ :=
    exists_between_of_append_eq (hdocument.symm.trans hdocument') (by omega)
  refine ⟨passed, hrest, ?_⟩
  rw [← hcount', hlonger, octetCount_append, hcount]

theorem IsIn.eq_of_offset_eq {first second : Cursor α} {document : List α}
    (hfirst : first.IsIn document) (hsecond : second.IsIn document)
    (h : first.offset = second.offset) : first = second := by
  obtain ⟨passed, hrest, hoffset⟩ := hfirst.exists_between hsecond (Nat.le_of_eq h)
  have hnil : passed = [] := eq_nil_of_octetCount_eq_zero (by omega)
  cases first
  cases second
  simp_all

section Seek

variable [DecidableEq α]

theorem seekFrom_eq_some_iff (target : α) (offset : Nat) (text : List α) (found : Cursor α) :
    seekFrom target offset text = some found ↔
      ∃ skipped rest, text = skipped ++ target :: rest ∧ target ∉ skipped ∧
        found = ⟨offset + octetCount skipped, target :: rest⟩ := by
  induction text generalizing offset with
  | nil => simp [seekFrom]
  | cons x text ih =>
    by_cases hx : x = target
    · subst hx
      simp only [seekFrom, if_true, Option.some.injEq]
      constructor
      · rintro rfl
        exact ⟨[], text, rfl, List.not_mem_nil, rfl⟩
      · rintro ⟨skipped, rest, htext, hskipped, rfl⟩
        cases skipped with
        | nil => simpa [octetCount_nil] using htext
        | cons y skipped => simp_all
    · simp only [seekFrom, if_neg hx, ih]
      constructor
      · rintro ⟨skipped, rest, rfl, hskipped, rfl⟩
        refine ⟨x :: skipped, rest, rfl, ?_, ?_⟩
        · simp [hskipped, Ne.symm hx]
        · rw [octetCount_cons, Nat.add_assoc]
      · rintro ⟨skipped, rest, htext, hskipped, rfl⟩
        cases skipped with
        | nil => simp_all
        | cons y skipped =>
          obtain ⟨rfl, rfl⟩ := List.cons.inj htext
          refine ⟨skipped, rest, rfl, fun h ↦ hskipped (List.mem_cons_of_mem _ h), ?_⟩
          rw [octetCount_cons, Nat.add_assoc]

theorem seek_eq_some_iff (place : Cursor α) (target : α) (found : Cursor α) :
    place.seek target = some found ↔
      ∃ skipped rest, place.rest = skipped ++ target :: rest ∧ target ∉ skipped ∧
        found = ⟨place.offset + octetCount skipped, target :: rest⟩ :=
  seekFrom_eq_some_iff target place.offset place.rest found

theorem seekFrom_eq_none_iff (target : α) (offset : Nat) (text : List α) :
    seekFrom target offset text = none ↔ target ∉ text := by
  induction text generalizing offset with
  | nil => simp [seekFrom]
  | cons x text ih =>
    by_cases hx : x = target
    · simp [seekFrom, hx]
    · simp [seekFrom, hx, ih, Ne.symm hx]

theorem seek_eq_none_iff (place : Cursor α) (target : α) :
    place.seek target = none ↔ target ∉ place.rest :=
  seekFrom_eq_none_iff target place.offset place.rest

theorem IsIn.seek {place found : Cursor α} {document : List α} {target : α}
    (hplace : place.IsIn document) (hfound : place.seek target = some found) :
    found.IsIn document := by
  obtain ⟨skipped, rest, hrest, -, rfl⟩ := (seek_eq_some_iff _ _ _).mp hfound
  exact hplace.advance hrest

theorem offset_le_of_seek_eq_some {place found : Cursor α} {target : α}
    (h : place.seek target = some found) : place.offset ≤ found.offset := by
  obtain ⟨skipped, rest, -, -, rfl⟩ := (seek_eq_some_iff _ _ _).mp h
  exact Nat.le_add_right _ _

theorem offset_next_of_seek_eq_some {place found : Cursor α} {target : α}
    (h : place.seek target = some found) : found.next.offset = found.offset + room target := by
  obtain ⟨skipped, rest, -, -, rfl⟩ := (seek_eq_some_iff _ _ _).mp h
  rfl

theorem seek_append {target : α} (offset : Nat) {skipped : List α} (rest : List α)
    (hskipped : target ∉ skipped) :
    (⟨offset, skipped ++ target :: rest⟩ : Cursor α).seek target =
      some ⟨offset + octetCount skipped, target :: rest⟩ :=
  (seek_eq_some_iff _ _ _).mpr ⟨skipped, rest, rfl, hskipped, rfl⟩

end Seek

theorem pass_eq (place : Cursor α) (passes : α → Bool) :
    place.pass passes =
      ⟨place.offset + octetCount (place.rest.takeWhile passes),
        place.rest.dropWhile passes⟩ := by
  obtain ⟨offset, text⟩ := place
  induction text generalizing offset with
  | nil => rfl
  | cons x text ih =>
    by_cases hx : passes x
    · have htail := ih (offset + room x)
      simp only [pass] at htail ⊢
      simp only [passFrom, hx, if_true, htail, List.takeWhile_cons_of_pos hx,
        List.dropWhile_cons_of_pos hx, octetCount_cons, Nat.add_assoc]
    · simp [pass, passFrom, hx, octetCount_nil]

/-- Passing over items that are not sought does not change what is found. -/
theorem seek_pass [DecidableEq α] (place : Cursor α) {passes : α → Bool} {target : α}
    (htarget : passes target = false) : (place.pass passes).seek target = place.seek target := by
  obtain ⟨offset, text⟩ := place
  unfold pass seek
  induction text generalizing offset with
  | nil => rfl
  | cons x text ih =>
    by_cases hx : passes x = true
    · have hne : x ≠ target := fun heq ↦ by simp [heq, htarget] at hx
      rw [passFrom, if_pos hx, seekFrom, if_neg hne]
      exact ih (offset + room x)
    · rw [passFrom, if_neg hx]

theorem IsIn.pass {place : Cursor α} {document : List α} (hplace : place.IsIn document)
    (passes : α → Bool) : (place.pass passes).IsIn document := by
  rw [pass_eq]
  exact hplace.advance List.takeWhile_append_dropWhile.symm

theorem offset_le_offset_pass (place : Cursor α) (passes : α → Bool) :
    place.offset ≤ (place.pass passes).offset := by
  rw [pass_eq]
  exact Nat.le_add_right _ _

/-- What is passed over ends at the latest where an item stands that does not pass. -/
theorem IsIn.offset_pass_le {place later : Cursor α} {document rest : List α} {x : α}
    {passes : α → Bool} (hplace : place.IsIn document) (hlater : later.IsIn document)
    (hle : place.offset ≤ later.offset) (hrest : later.rest = x :: rest) (hx : passes x = false) :
    (place.pass passes).offset ≤ later.offset := by
  obtain ⟨between, hbetween, hoffset⟩ := hplace.exists_between hlater hle
  have hstop : (x :: rest).takeWhile passes = [] :=
    List.takeWhile_cons_of_neg (ne_true_of_eq_false hx)
  have hpassed : place.rest.takeWhile passes <+: between := by
    rw [hbetween, hrest, List.takeWhile_append, hstop, List.append_nil]
    split_ifs
    · exact List.prefix_rfl
    · exact List.takeWhile_prefix passes
  obtain ⟨remaining, hparts⟩ := hpassed
  rw [pass_eq, hoffset, ← hparts, octetCount_append]
  exact Nat.add_le_add_left (Nat.le_add_right _ _) _

theorem cutAt?_eq_some_iff (place : Cursor α) (offset : Nat) (front : List α) (back : Cursor α) :
    place.cutAt? offset = some (front, back) ↔
      place.rest = front ++ back.rest ∧ place.offset + octetCount front = offset ∧
        back.offset = offset := by
  obtain ⟨backOffset, after⟩ := back
  by_cases hle : place.offset ≤ offset
  · simp only [cutAt?, if_pos hle, Option.map_eq_some_iff, Prod.mk.injEq, Cursor.mk.injEq]
    constructor
    · rintro ⟨parts, hcut, rfl, rfl, rfl⟩
      obtain ⟨hrest, hcount⟩ := (cut?_eq_some_iff _ _ parts.1 parts.2).mp hcut
      exact ⟨hrest, by omega, rfl⟩
    · rintro ⟨hrest, hcount, rfl⟩
      exact ⟨(front, after), (cut?_eq_some_iff _ _ _ _).mpr ⟨hrest, by omega⟩, rfl, rfl, rfl⟩
  · simp only [cutAt?, if_neg hle, false_iff, reduceCtorEq]
    rintro ⟨_, hcount, _⟩
    omega

theorem cutAt?_append (offset : Nat) (front rest : List α) :
    (⟨offset, front ++ rest⟩ : Cursor α).cutAt? (offset + octetCount front) =
      some (front, ⟨offset + octetCount front, rest⟩) :=
  (cutAt?_eq_some_iff _ _ _ _).mpr ⟨rfl, rfl, rfl⟩

end Cursor

/-- The text of a document between two offsets. -/
def textBetween (document : List α) (start stop : Nat) : Option (List α) :=
  ((Cursor.start document).cutAt? start).bind fun front ↦ (front.2.cutAt? stop).map (·.1)

theorem textBetween_append (before middle after : List α) :
    textBetween (before ++ middle ++ after) (octetCount before)
      (octetCount before + octetCount middle) = some middle := by
  have hbefore := Cursor.cutAt?_append 0 before (middle ++ after)
  have hmiddle := Cursor.cutAt?_append (octetCount before) middle after
  rw [Nat.zero_add] at hbefore
  rw [textBetween, Cursor.start, List.append_assoc, hbefore, Option.bind_some, hmiddle,
    Option.map_some]

theorem textBetween_eq_some_iff (document : List α) (start stop : Nat) (text : List α) :
    textBetween document start stop = some text ↔
      ∃ before after, document = before ++ text ++ after ∧ octetCount before = start ∧
        octetCount before + octetCount text = stop := by
  constructor
  · intro h
    obtain ⟨⟨before, atStart⟩, hbefore, hrest⟩ := Option.bind_eq_some_iff.mp h
    obtain ⟨⟨front, after⟩, htext, rfl⟩ := Option.map_eq_some_iff.mp hrest
    obtain ⟨hdocument, hstart, hplace⟩ := (Cursor.cutAt?_eq_some_iff _ _ _ _).mp hbefore
    obtain ⟨hparts, hstop, -⟩ := (Cursor.cutAt?_eq_some_iff _ _ _ _).mp htext
    have hcount : octetCount before = start := (Nat.zero_add _).symm.trans hstart
    refine ⟨before, after.rest, ?_, hcount, ?_⟩
    · rw [List.append_assoc, ← hparts]
      exact hdocument
    · rw [hcount, ← hplace]
      exact hstop
  · rintro ⟨before, after, rfl, rfl, rfl⟩
    exact textBetween_append before text after

theorem Cursor.IsIn.textBetween_eq {place : Cursor α} {document text rest : List α}
    (hplace : place.IsIn document) (hrest : place.rest = text ++ rest) :
    textBetween document place.offset (place.offset + octetCount text) = some text := by
  obtain ⟨before, hdocument, hcount⟩ := hplace
  refine (textBetween_eq_some_iff _ _ _ _).mpr ⟨before, rest, ?_, hcount, ?_⟩
  · rw [hdocument, hrest, List.append_assoc]
  · rw [hcount]

theorem Cursor.IsIn.textBetween_to_end {place : Cursor α} {document : List α}
    (hplace : place.IsIn document) :
    textBetween document place.offset (octetCount document) = some place.rest := by
  have hrest := hplace.textBetween_eq (List.append_nil place.rest).symm
  obtain ⟨before, hdocument, hcount⟩ := hplace
  rwa [← hcount, ← octetCount_append, ← hdocument, hcount] at hrest

/-- What stands between two offsets has every item in it that begins there. -/
theorem mem_of_textBetween_eq_some {before after text : List α} {x : α} {start stop : Nat}
    (h : textBetween (before ++ x :: after) start stop = some text)
    (hstart : start ≤ octetCount before) (hstop : octetCount before < stop) : x ∈ text := by
  obtain ⟨front, back, hdocument, rfl, rfl⟩ := (textBetween_eq_some_iff _ _ _ _).mp h
  rw [List.append_assoc] at hdocument
  obtain ⟨skipped, rfl, hrest⟩ := exists_between_of_append_eq hdocument.symm hstart
  rw [octetCount_append] at hstop
  obtain ⟨inside, rfl, htail⟩ := exists_between_of_append_eq hrest.symm (by omega)
  rcases inside with _ | ⟨y, inside⟩
  · rw [List.append_nil] at hstop
    omega
  · obtain ⟨rfl, -⟩ := List.cons.inj htail
    exact List.mem_append_right skipped List.mem_cons_self

namespace Search

variable [DecidableEq α]

/-- What the search remembers is what its last look from some place of the document gave. -/
def Recalls (search : Search α) (document : List α) (target : α) : Prop :=
  ∀ offset, search.lookedFrom = some offset →
    ∃ place : Cursor α, place.IsIn document ∧ place.offset = offset ∧
      search.answer = place.seek target

theorem recalls_fresh (document : List α) (target : α) :
    ({} : Search α).Recalls document target := by
  intro offset hoffset
  cases hoffset

/-- A look from further back gives what a look from here gives, as long as it found nothing in
between. -/
theorem seek_eq_seek_of_between {first second : Cursor α} {document : List α} {target : α}
    (hfirst : first.IsIn document) (hsecond : second.IsIn document)
    (hle : first.offset ≤ second.offset)
    (hfound : (first.seek target).all (second.offset ≤ ·.offset) = true) :
    first.seek target = second.seek target := by
  obtain ⟨passed, hrest, hoffset⟩ := hfirst.exists_between hsecond hle
  cases hseek : first.seek target with
  | none =>
    have habsent := (Cursor.seek_eq_none_iff _ _).mp hseek
    rw [hrest, List.mem_append, not_or] at habsent
    exact ((Cursor.seek_eq_none_iff _ _).mpr habsent.2).symm
  | some found =>
    obtain ⟨skipped, rest, hskip, habsent, rfl⟩ := (Cursor.seek_eq_some_iff _ _ _).mp hseek
    simp only [hseek, Option.all_some, decide_eq_true_eq] at hfound
    obtain ⟨between, rfl, hbetween⟩ :=
      exists_between_of_append_eq (hrest.symm.trans hskip) (by omega)
    refine ((Cursor.seek_eq_some_iff _ _ _).mpr ⟨between, rest, hbetween, ?_, ?_⟩).symm
    · exact fun h ↦ habsent (List.mem_append_right _ h)
    · rw [hoffset, octetCount_append, Nat.add_assoc]

/-- A look from further on finds nothing further back. -/
theorem offset_le_of_seek_of_seek {first second found later : Cursor α} {document : List α}
    {target : α} (hfirst : first.IsIn document) (hsecond : second.IsIn document)
    (hle : first.offset ≤ second.offset) (hfound : first.seek target = some found)
    (hlater : second.seek target = some later) : found.offset ≤ later.offset := by
  by_cases hbetween : second.offset ≤ found.offset
  · have hsame : first.seek target = second.seek target := by
      apply seek_eq_seek_of_between hfirst hsecond hle
      rw [hfound, Option.all_some, decide_eq_true_eq]
      exact hbetween
    rw [hfound, hlater] at hsame
    exact Nat.le_of_eq (congrArg Cursor.offset (Option.some.inj hsame))
  · have hpast := Cursor.offset_le_of_seek_eq_some hlater
    omega

/-- A search that recalls its document answers as if it looked anew. -/
theorem Recalls.answer_ask {search : Search α} {document : List α} {target : α}
    (hsearch : search.Recalls document target) {place : Cursor α} (hplace : place.IsIn document) :
    (search.ask target place).answer = place.seek target := by
  by_cases hserves : search.stillServes place.offset = true
  · rw [ask_of_serves hserves]
    rw [stillServes, Bool.and_eq_true, Option.any_eq_true] at hserves
    obtain ⟨⟨offset, hlooked, hle⟩, hall⟩ := hserves
    obtain ⟨seen, hseen, rfl, hanswer⟩ := hsearch offset hlooked
    rw [hanswer] at hall ⊢
    exact seek_eq_seek_of_between hseen hplace (of_decide_eq_true hle) hall
  · rw [ask_of_not_serves hserves]

theorem Recalls.ask {search : Search α} {document : List α} {target : α}
    (hsearch : search.Recalls document target) {place : Cursor α} (hplace : place.IsIn document) :
    (search.ask target place).Recalls document target := by
  by_cases hserves : search.stillServes place.offset = true
  · rw [ask_of_serves hserves]
    exact hsearch
  · rw [ask_of_not_serves hserves]
    intro offset hoffset
    obtain rfl : place.offset = offset := Option.some.inj hoffset
    exact ⟨place, hplace, rfl, rfl⟩

end Search

end LeafLayout.Text
