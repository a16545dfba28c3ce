import LeafLayout.Proofs.Disk.Outline
import Mathlib.Data.List.Nodup

/-!
Changes to what is in files. A disk is amended by a change to the content of each of its files,
which may be another one at every place; its outline stays, and amendments of different files do not
meet. Overwriting a file is an amendment at its place, as long as the disk has every place once.
-/

set_option autoImplicit false

namespace LeafLayout

def Entry.amend (change : List UInt8 → List UInt8) : Entry → Entry
  | .directory => .directory
  | .file content => .file (change content)

theorem Entry.isDirectory_amend (change : List UInt8 → List UInt8) (entry : Entry) :
    (entry.amend change).isDirectory = entry.isDirectory := by
  cases entry <;> rfl

theorem Entry.amend_amend (change later : List UInt8 → List UInt8) (entry : Entry) :
    (entry.amend change).amend later = entry.amend (later ∘ change) := by
  cases entry <;> rfl

theorem Entry.amend_id (entry : Entry) : entry.amend id = entry := by
  cases entry <;> rfl

namespace Disk

/-! ### Places -/

/-- Every place is there once at most. -/
def Unambiguous (disk : Disk) : Prop :=
  (disk.entries.map (·.1)).Nodup

instance (disk : Disk) : Decidable disk.Unambiguous :=
  inferInstanceAs (Decidable (disk.entries.map (·.1)).Nodup)

theorem unambiguous_congr {first second : Disk} (h : first.outline = second.outline) :
    first.Unambiguous ↔ second.Unambiguous := by
  have hplaces (disk : Disk) : disk.entries.map (·.1) = disk.outline.kinds.map (·.1) := by
    rw [outline, List.map_map]
    rfl
  rw [Unambiguous, Unambiguous, hplaces, hplaces, h]

theorem lookup_eq_some_of_mem {entries : List (Place × Entry)}
    (hentries : (entries.map (·.1)).Nodup) {slot : Place × Entry} (hslot : slot ∈ entries) : entries.lookup slot.1 = some slot.2 := by
  induction entries with
  | nil => cases hslot
  | cons first entries ih =>
    rw [List.map_cons, List.nodup_cons] at hentries
    rw [List.lookup_cons]
    rcases List.mem_cons.mp hslot with rfl | hslot
    · rw [beq_self_eq_true]
    · have hne : slot.1 ≠ first.1 := fun heq ↦
        hentries.1 (heq ▸ List.mem_map_of_mem hslot)
      rw [beq_false_of_ne hne]
      exact ih hentries.2 hslot

theorem map_fst_set (disk : Disk) (place : Place) (entry : Entry) :
    (disk.set place entry).entries.map (·.1) =
      if place ∈ disk.entries.map (·.1) then disk.entries.map (·.1)
      else disk.entries.map (·.1) ++ [place] := by
  have hthere : disk.entries.any (·.1 == place) = true ↔ place ∈ disk.entries.map (·.1) := by
    simp
  by_cases hplace : place ∈ disk.entries.map (·.1)
  · rw [if_pos hplace, set, if_pos (hthere.mpr hplace), List.map_map]
    refine List.map_congr_left fun slot _ ↦ ?_
    rw [Function.comp_apply]
    split_ifs with hslot
    · exact hslot.symm
    · rfl
  · rw [if_neg hplace, set, if_neg (mt hthere.mp hplace), List.map_append]
    rfl

theorem unambiguous_empty_entries (here : Place) : ({ here := here } : Disk).Unambiguous :=
  List.nodup_nil

theorem Unambiguous.set {disk : Disk} (h : disk.Unambiguous) (place : Place) (entry : Entry) :
    (disk.set place entry).Unambiguous := by
  rw [Unambiguous, map_fst_set]
  split_ifs with hplace
  · exact h
  · exact List.nodup_append.mpr ⟨h, List.nodup_singleton place, by
      intro other hother same hsame
      rw [List.mem_singleton] at hsame
      exact fun heq ↦ hplace (hsame ▸ heq ▸ hother)⟩

theorem Unambiguous.addDirectory {disk : Disk} (h : disk.Unambiguous) (place : Place) :
    (disk.addDirectory place).Unambiguous := by
  unfold Disk.addDirectory
  split_ifs
  · exact h
  · exact h.set place .directory

theorem Unambiguous.makeDirectory {disk : Disk} (h : disk.Unambiguous) (place : Place) :
    (disk.makeDirectory place).Unambiguous := by
  unfold Disk.makeDirectory
  induction (List.range (place.length + 1)).map place.take generalizing disk with
  | nil => exact h
  | cons first more ih => exact ih (h.addDirectory first)

theorem Unambiguous.putFile {disk : Disk} (h : disk.Unambiguous) (place : Place)
    (content : List UInt8) : (disk.putFile place content).Unambiguous :=
  (h.makeDirectory place.dropLast).set place (.file content)

theorem Unambiguous.refuse {disk : Disk} (h : disk.Unambiguous) (place : Place) (access : Access)
    (fault : Fault) : (disk.refuse place access fault).Unambiguous :=
  h

theorem unambiguous_empty (here : Place) : (empty here).Unambiguous :=
  (unambiguous_empty_entries here).makeDirectory here

/-! ### Amending -/

/-- The disk with the content of each file changed. -/
def amend (disk : Disk) (change : Place → List UInt8 → List UInt8) : Disk :=
  { disk with entries := disk.entries.map fun slot ↦ (slot.1, slot.2.amend (change slot.1)) }

/-- A change to the file at one place. -/
def onlyAt (place : Place) (change : List UInt8 → List UInt8) : Place → List UInt8 → List UInt8 :=
  fun other content ↦ if other = place then change content else content

/-- The content of the file at a place, if a file is there. -/
def contentAt? (disk : Disk) (place : Place) : Option (List UInt8) :=
  match disk.entryAt? place with
  | some (.file content) => some content
  | _ => none

theorem contentAt?_eq_some_iff (disk : Disk) (place : Place) (content : List UInt8) :
    disk.contentAt? place = some content ↔ disk.entryAt? place = some (.file content) := by
  unfold contentAt?
  split
  · next found hentry => rw [hentry, Option.some.injEq, Option.some.injEq, Entry.file.injEq]
  · next hother => exact iff_of_false (by simp) (hother content)

theorem lookup_of_contentAt?_eq_some {disk : Disk} {place : Place} {content : List UInt8}
    (h : disk.contentAt? place = some content) :
    disk.entries.lookup place = some (.file content) := by
  rw [contentAt?_eq_some_iff, entryAt?] at h
  by_cases hroot : place = []
  · rw [if_pos hroot] at h
    cases h
  · rwa [if_neg hroot] at h

theorem outline_amend (disk : Disk) (change : Place → List UInt8 → List UInt8) :
    (disk.amend change).outline = disk.outline := by
  simp only [outline, amend, List.map_map, Function.comp_def, Entry.isDirectory_amend]

theorem entryAt?_amend (disk : Disk) (change : Place → List UInt8 → List UInt8) (place : Place) :
    (disk.amend change).entryAt? place =
      (disk.entryAt? place).map (Entry.amend (change place)) := by
  unfold entryAt?
  split_ifs
  · rfl
  · exact lookup_map_snd disk.entries (fun place entry ↦ entry.amend (change place)) place

theorem contentAt?_amend (disk : Disk) (change : Place → List UInt8 → List UInt8) (place : Place) :
    (disk.amend change).contentAt? place = (disk.contentAt? place).map (change place) := by
  rw [contentAt?, contentAt?, entryAt?_amend]
  cases disk.entryAt? place with
  | none => rfl
  | some entry => cases entry <;> rfl

theorem amend_amend (disk : Disk) (change later : Place → List UInt8 → List UInt8) :
    (disk.amend change).amend later = disk.amend fun place ↦ later place ∘ change place := by
  simp only [amend, List.map_map, Function.comp_def, Entry.amend_amend]

theorem amend_id (disk : Disk) : (disk.amend fun _ ↦ id) = disk := by
  simp only [amend, Entry.amend_id, List.map_id']

/-- A change to one file leaves alone what is at other places. -/
theorem entryAt?_amend_onlyAt (disk : Disk) {place other : Place} (hother : other ≠ place)
    (change : List UInt8 → List UInt8) :
    (disk.amend (onlyAt place change)).entryAt? other = disk.entryAt? other := by
  have hkept : onlyAt place change other = id := funext fun _ ↦ if_neg hother
  have hid : (Entry.amend id : Entry → Entry) = id := funext Entry.amend_id
  rw [entryAt?_amend, hkept, hid, Option.map_id, id]

section Unambiguous

variable {disk : Disk} {place : Place} {content : List UInt8}

/-- On an unambiguous disk a place has the entry that is found there. -/
theorem Unambiguous.entry_eq (hdisk : disk.Unambiguous)
    (hfile : disk.contentAt? place = some content) {slot : Place × Entry}
    (hslot : slot ∈ disk.entries) (hplace : slot.1 = place) : slot.2 = .file content := by
  have hentry := lookup_eq_some_of_mem hdisk hslot
  rw [hplace, lookup_of_contentAt?_eq_some hfile, Option.some.injEq] at hentry
  exact hentry.symm

theorem Unambiguous.amend_onlyAt_congr (hdisk : disk.Unambiguous)
    (hfile : disk.contentAt? place = some content) {change later : List UInt8 → List UInt8}
    (h : change content = later content) :
    disk.amend (onlyAt place change) = disk.amend (onlyAt place later) := by
  rw [amend, amend]
  congr 1
  refine List.map_congr_left fun slot hslot ↦ congrArg (slot.1, ·) ?_
  by_cases hplace : slot.1 = place
  · rw [hdisk.entry_eq hfile hslot hplace, Entry.amend, Entry.amend, onlyAt, onlyAt,
      if_pos hplace, if_pos hplace, h]
  · have hother (any : List UInt8 → List UInt8) : onlyAt place any slot.1 = id :=
      funext fun _ ↦ if_neg hplace
    rw [hother, hother]

theorem onlyAt_id (place : Place) : onlyAt place id = fun _ ↦ id := by
  funext other content
  exact ite_self content

theorem Unambiguous.amend_onlyAt_eq_self (hdisk : disk.Unambiguous)
    (hfile : disk.contentAt? place = some content) {change : List UInt8 → List UInt8}
    (h : change content = content) : disk.amend (onlyAt place change) = disk := by
  rw [hdisk.amend_onlyAt_congr hfile (show change content = id content from h), onlyAt_id, amend_id]

/-- Putting a file in place of another one changes nothing but its content. -/
theorem Unambiguous.set_eq_amend (hdisk : disk.Unambiguous)
    (hfile : disk.contentAt? place = some content) (change : List UInt8 → List UInt8) :
    disk.set place (.file (change content)) = disk.amend (onlyAt place change) := by
  have hthere : disk.entries.any (·.1 == place) = true := by
    have hlookup := lookup_of_contentAt?_eq_some hfile
    by_contra hnowhere
    rw [List.any_eq_true, not_exists] at hnowhere
    rw [List.lookup_eq_none_iff.mpr fun slot hslot ↦ ?_] at hlookup
    · cases hlookup
    · rw [bne_iff_ne]
      exact fun h ↦ hnowhere slot ⟨hslot, beq_iff_eq.mpr h.symm⟩
  rw [Disk.set, if_pos hthere, amend]
  congr 1
  refine List.map_congr_left fun slot hslot ↦ ?_
  by_cases hplace : slot.1 = place
  · rw [if_pos hplace, hdisk.entry_eq hfile hslot hplace, Entry.amend, onlyAt, if_pos hplace,
      hplace]
  · have hother : onlyAt place change slot.1 = id := funext fun _ ↦ if_neg hplace
    rw [if_neg hplace, hother, Entry.amend_id]

end Unambiguous

end Disk

end LeafLayout
