import LeafLayout.Text.Search
import Mathlib.Data.List.Pairwise
import Mathlib.Order.Interval.Finset.Nat

/-!
What a search looks at when it is asked from places further and further on. It remembers what it
found, and as long as that lies ahead it need not look again; it looks from behind it or, once there
was nothing to find, not at all any more. So what it looks at for one question lies behind all it
looked at for those before, and it goes through the text once.
-/

set_option autoImplicit false

namespace LeafLayout.Text

/-- The octets looked at for a question about a text of so many octets: from the place asked from up
to what was found, or up to the end of the text, and none if the answer was remembered. -/
def Probe.octets (size : Nat) (record : Probe) : Finset Nat :=
  if record.looked then
    record.found.elim (Finset.Ico record.asked size) fun place ↦ Finset.Icc record.asked place
  else ∅

/-- The questions put to one search about a text of so many octets, in order, make it go through the
text once. -/
structure LooksOnce (size : Nat) (records : List Probe) : Prop where
  /-- It is never asked from further back than before. -/
  onwards : records.Pairwise fun earlier later ↦ earlier.asked ≤ later.asked
  /-- After its first question it looks only from behind all that it found before, and not at all
  any more once it found nothing. -/
  behind : records.Pairwise fun earlier later ↦
    later.looked = true → ∃ place, earlier.found = some place ∧ place < later.asked
  /-- It looks at no octet for two questions. -/
  apart : records.Pairwise fun earlier later ↦
    Disjoint (earlier.octets size) (later.octets size)

theorem LooksOnce.sublist {size : Nat} {records part : List Probe} (h : LooksOnce size records)
    (hpart : part.Sublist records) : LooksOnce size part where
  onwards := h.onwards.sublist hpart
  behind := h.behind.sublist hpart
  apart := h.apart.sublist hpart

/-! ### The octets looked at -/

theorem Probe.octets_eq_empty (size : Nat) {record : Probe} (h : record.looked = false) :
    record.octets size = ∅ := by
  rw [octets, if_neg (ne_true_of_eq_false h)]

theorem Probe.asked_le_of_mem_octets {size i : Nat} {record : Probe}
    (h : i ∈ record.octets size) : record.asked ≤ i := by
  rw [octets] at h
  split_ifs at h
  · cases hfound : record.found with
    | none =>
      rw [hfound] at h
      exact (Finset.mem_Ico.mp h).1
    | some place =>
      rw [hfound] at h
      exact (Finset.mem_Icc.mp h).1
  · exact absurd h (Finset.notMem_empty i)

theorem Probe.le_of_mem_octets {size i place : Nat} {record : Probe}
    (h : i ∈ record.octets size) (hfound : record.found = some place) : i ≤ place := by
  rw [octets, hfound] at h
  split_ifs at h
  · exact (Finset.mem_Icc.mp h).2
  · exact absurd h (Finset.notMem_empty i)

theorem Probe.disjoint_octets {earlier later : Probe} (size : Nat)
    (h : later.looked = true → ∃ place, earlier.found = some place ∧ place < later.asked) :
    Disjoint (earlier.octets size) (later.octets size) := by
  by_cases hlooked : later.looked = true
  · obtain ⟨place, hfound, hplace⟩ := h hlooked
    rw [Finset.disjoint_left]
    intro i hearlier hlater
    have hbefore := le_of_mem_octets hearlier hfound
    have hbehind := asked_le_of_mem_octets hlater
    omega
  · rw [octets_eq_empty size (eq_false_of_ne_true hlooked)]
    exact Finset.disjoint_empty_right _

/-! ### Asking from place to place -/

namespace Search

/-- A search that has looked from further back does not serve any more only because what it found is
behind. -/
theorem exists_answer_of_not_serves {α : Type} {search : Search α} {back offset : Nat}
    (hback : search.lookedFrom = some back) (hle : back ≤ offset)
    (h : ¬ search.stillServes offset = true) :
    ∃ found, search.answer = some found ∧ found.offset < offset := by
  rw [stillServes, hback, Option.any_some, decide_eq_true hle, Bool.true_and] at h
  cases hanswer : search.answer with
  | none =>
    rw [hanswer] at h
    exact absurd rfl h
  | some found =>
    rw [hanswer, Option.all_some, decide_eq_true_eq, Nat.not_le] at h
    exact ⟨found, rfl, h⟩

variable {α : Type} [Roomy α] [DecidableEq α]

/-- The questions to a search that is asked from one place after the other. -/
def probes (target : α) : Search α → List (Cursor α) → List Probe
  | _, [] => []
  | search, place :: more =>
    search.probe target place :: probes target (search.ask target place) more

section Probe

variable (search : Search α) (target : α) (place : Cursor α)

theorem looked_probe_eq_true_iff :
    (search.probe target place).looked = true ↔ ¬ search.stillServes place.offset = true := by
  by_cases hserves : search.stillServes place.offset = true
  · rw [probe, inquire_of_serves hserves]
    exact iff_of_false Bool.false_ne_true (not_not.mpr hserves)
  · rw [probe, inquire_of_not_serves hserves]
    exact iff_of_true rfl hserves

theorem exists_lookedFrom_ask :
    ∃ back, (search.ask target place).lookedFrom = some back ∧ back ≤ place.offset := by
  by_cases hserves : search.stillServes place.offset = true
  · rw [ask_of_serves hserves]
    rw [stillServes, Bool.and_eq_true, Option.any_eq_true] at hserves
    obtain ⟨⟨back, hback, hle⟩, -⟩ := hserves
    exact ⟨back, hback, of_decide_eq_true hle⟩
  · rw [ask_of_not_serves hserves]
    exact ⟨place.offset, rfl, Nat.le_refl _⟩

end Probe

theorem map_asked_probes (target : α) (search : Search α) (places : List (Cursor α)) :
    (probes target search places).map (·.asked) = places.map (·.offset) := by
  induction places generalizing search with
  | nil => rfl
  | cons place places ih =>
    rw [probes, List.map_cons, List.map_cons, asked_probe, ih]

/-- Whatever the search is going to look at lies behind what it remembers. -/
theorem exists_answer_before {target : α} {search : Search α} {places : List (Cursor α)}
    {back : Nat} (hback : search.lookedFrom = some back)
    (hle : ∀ place ∈ places, back ≤ place.offset)
    (honwards : places.Pairwise fun earlier later ↦ earlier.offset ≤ later.offset)
    {record : Probe} (hrecord : record ∈ probes target search places)
    (hlooked : record.looked = true) :
    ∃ found, search.answer = some found ∧ found.offset < record.asked := by
  induction places generalizing search back with
  | nil => exact absurd hrecord List.not_mem_nil
  | cons place places ih =>
    obtain ⟨hahead, hmore⟩ := List.pairwise_cons.mp honwards
    have hplace := hle place List.mem_cons_self
    rcases List.mem_cons.mp hrecord with rfl | hlater
    · rw [asked_probe]
      exact exists_answer_of_not_serves hback hplace
        ((looked_probe_eq_true_iff search target place).mp hlooked)
    · obtain ⟨further, hfurther, hplace'⟩ := exists_lookedFrom_ask search target place
      have hfound := ih hfurther (fun next hnext ↦ Nat.le_trans hplace' (hahead next hnext)) hmore
        hlater
      by_cases hserves : search.stillServes place.offset = true
      · rwa [ask_of_serves hserves] at hfound
      · obtain ⟨found, hanswer, hbefore⟩ := exists_answer_of_not_serves hback hplace hserves
        have hasked : record.asked ∈ places.map (·.offset) := by
          rw [← map_asked_probes target (search.ask target place)]
          exact List.mem_map_of_mem hlater
        obtain ⟨next, hnext, hoffset⟩ := List.mem_map.mp hasked
        have hpast := hahead next hnext
        exact ⟨found, hanswer, by omega⟩

/-- A search that is asked from places further and further on goes through the text once. -/
theorem looksOnce_probes (size : Nat) (target : α) (search : Search α)
    {places : List (Cursor α)}
    (honwards : places.Pairwise fun earlier later ↦ earlier.offset ≤ later.offset) :
    LooksOnce size (probes target search places) := by
  have hbehind : (probes target search places).Pairwise fun earlier later ↦
      later.looked = true → ∃ place, earlier.found = some place ∧ place < later.asked := by
    induction places generalizing search with
    | nil => exact List.Pairwise.nil
    | cons place places ih =>
      obtain ⟨hahead, hmore⟩ := List.pairwise_cons.mp honwards
      refine List.pairwise_cons.mpr ⟨fun later hlater hlooked ↦ ?_, ih _ hmore⟩
      obtain ⟨back, hback, hle⟩ := exists_lookedFrom_ask search target place
      obtain ⟨found, hanswer, hbefore⟩ := exists_answer_before hback
        (fun next hnext ↦ Nat.le_trans hle (hahead next hnext)) hmore hlater hlooked
      refine ⟨found.offset, ?_, hbefore⟩
      rw [found_probe, hanswer, Option.map_some]
  constructor
  case onwards =>
    have hasked : ((probes target search places).map (·.asked)).Pairwise (· ≤ ·) := by
      rw [map_asked_probes, List.pairwise_map]
      exact honwards
    exact List.pairwise_map.mp hasked
  case behind => exact hbehind
  case apart => exact hbehind.imp fun h ↦ Probe.disjoint_octets size h

end Search

end LeafLayout.Text
