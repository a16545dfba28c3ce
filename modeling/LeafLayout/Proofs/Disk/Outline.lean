import LeafLayout.Disk.Basic

/-!
What is seen of a disk without reading a file: the working directory, where there are directories
and where files, and what the system refuses. On two disks that have this in common every path leads
to the same place or fails for the same reason, and every directory lists the same.
-/

set_option autoImplicit false

namespace LeafLayout.Disk

structure Outline where
  here : Place
  kinds : List (Place × Bool)
  refusals : List ((Place × Access) × Fault)

/-- All of a disk but for the contents of files. -/
def outline (disk : Disk) : Outline where
  here := disk.here
  kinds := disk.entries.map fun slot ↦ (slot.1, slot.2.isDirectory)
  refusals := disk.refusals

/-- Whether there is a directory at a place, if there is anything. -/
def isDirectoryAt? (disk : Disk) (place : Place) : Option Bool :=
  (disk.entryAt? place).map Entry.isDirectory

theorem lookup_map_snd {Value Other : Type} (entries : List (Place × Value))
    (view : Place → Value → Other) (place : Place) :
    (entries.map fun slot ↦ (slot.1, view slot.1 slot.2)).lookup place =
      (entries.lookup place).map (view place) := by
  induction entries with
  | nil => rfl
  | cons slot entries ih =>
    rw [List.map_cons, List.lookup_cons, List.lookup_cons, ih]
    cases h : place == slot.1 with
    | true => rw [eq_of_beq h]; rfl
    | false => rfl

section Congruence

variable {first second : Disk}

theorem refusal?_congr (h : first.outline = second.outline) :
    first.refusal? = second.refusal? := by
  have hrefusals : first.refusals = second.refusals := congrArg Outline.refusals h
  funext place access
  rw [refusal?, refusal?, hrefusals]

theorem isDirectoryAt?_congr (h : first.outline = second.outline) :
    first.isDirectoryAt? = second.isDirectoryAt? := by
  have hentries := congrArg Outline.kinds h
  funext place
  unfold isDirectoryAt? entryAt?
  by_cases hroot : place = []
  · rw [if_pos hroot, if_pos hroot]
  · have hlookup := congrArg (List.lookup place) hentries
    simp only [outline] at hlookup
    rw [lookup_map_snd _ fun _ ↦ Entry.isDirectory, lookup_map_snd _ fun _ ↦ Entry.isDirectory]
      at hlookup
    rw [if_neg hroot, if_neg hroot, hlookup]

/-- Following a path looks at kinds only. -/
theorem follow_cons (disk : Disk) (place : Place) (piece : Name) (more : List Name) :
    disk.follow place (piece :: more) =
      match disk.isDirectoryAt? place with
      | none => .error .notFound
      | some false => .error .notADirectory
      | some true =>
        if piece = [] ∨ piece = ['.'] then disk.follow place more
        else if piece = ['.', '.'] then disk.follow place.dropLast more
        else if longestName < Text.octetCount piece then .error .nameTooLong
        else if (disk.isDirectoryAt? (place ++ [piece])).isNone then .error .notFound
        else disk.follow (place ++ [piece]) more := by
  rw [follow, isDirectoryAt?, isDirectoryAt?, Option.isNone_map]
  cases disk.entryAt? place with
  | none => rfl
  | some entry =>
    cases entry with
    | directory => rfl
    | file content => rfl

theorem follow_congr (h : first.outline = second.outline) (place : Place) (pieces : List Name) :
    first.follow place pieces = second.follow place pieces := by
  induction pieces generalizing place with
  | nil => rfl
  | cons piece more ih => simp only [follow_cons, isDirectoryAt?_congr h, ih]

theorem resolve_congr (h : first.outline = second.outline) : first.resolve = second.resolve := by
  have hhere : first.here = second.here := congrArg Outline.here h
  funext path
  simp only [resolve, hhere, follow_congr h]

/-- The kind of what a path leads to. -/
theorem entry?_map_isDirectory (disk : Disk) (path : Path) :
    (disk.entry? path).map Entry.isDirectory =
      (disk.resolve path).bind fun place ↦
        ((disk.isDirectoryAt? place).elim (.error .notFound) .ok) := by
  unfold entry? isDirectoryAt?
  cases disk.resolve path with
  | error fault => rfl
  | ok place => cases h : disk.entryAt? place <;> simp [bind, Except.bind, Except.map, h]

theorem entry?_map_isDirectory_congr (h : first.outline = second.outline) (path : Path) :
    (first.entry? path).map Entry.isDirectory = (second.entry? path).map Entry.isDirectory := by
  rw [entry?_map_isDirectory, entry?_map_isDirectory, resolve_congr h, isDirectoryAt?_congr h]

theorem has_congr (h : first.outline = second.outline) : first.has = second.has := by
  have hkind (disk : Disk) (path : Path) :
      disk.has path = ((disk.entry? path).map Entry.isDirectory).isOk := by
    unfold has
    cases disk.entry? path <;> rfl
  funext path
  rw [hkind, hkind, entry?_map_isDirectory_congr h]

theorem isDirectory_congr (h : first.outline = second.outline) :
    first.isDirectory = second.isDirectory := by
  have hkind (disk : Disk) (path : Path) : disk.isDirectory path =
      ((disk.entry? path).map Entry.isDirectory).toOption.any id := by
    unfold isDirectory
    cases disk.entry? path with
    | error fault => rfl
    | ok entry => cases entry <;> rfl
  funext path
  rw [hkind, hkind, entry?_map_isDirectory_congr h]

theorem isFile_congr (h : first.outline = second.outline) : first.isFile = second.isFile := by
  have hkind (disk : Disk) (path : Path) : disk.isFile path =
      ((disk.entry? path).map Entry.isDirectory).toOption.any not := by
    unfold isFile
    cases disk.entry? path with
    | error fault => rfl
    | ok entry => cases entry <;> rfl
  funext path
  rw [hkind, hkind, entry?_map_isDirectory_congr h]

theorem isPage_congr (h : first.outline = second.outline) : first.isPage = second.isPage := by
  funext path
  rw [isPage, isPage, isFile_congr h]

/-- A listing is made of the outline. -/
theorem list_eq (disk : Disk) (path : Path) :
    disk.list path = (disk.resolve path).bind fun place ↦
      match disk.isDirectoryAt? place, disk.refusal? place .read with
      | none, _ => .error .notFound
      | some false, _ => .error .notADirectory
      | some true, some fault => .error fault
      | some true, none =>
        .ok ((disk.outline.kinds.filterMap fun shown ↦
          match shown.1.getLast? with
          | some name => if shown.1.dropLast = place then some (name, shown.2) else none
          | none => none).mergeSort fun first second ↦ (compare first.1 second.1).isLE) := by
  unfold list isDirectoryAt? outline
  cases disk.resolve path with
  | error fault => rfl
  | ok place =>
    simp only [bind, Except.bind, List.filterMap_map, Function.comp_def]
    cases disk.entryAt? place with
    | none => rfl
    | some entry =>
      cases entry with
      | directory => cases disk.refusal? place .read <;> rfl
      | file content => rfl

theorem list_congr (h : first.outline = second.outline) : first.list = second.list := by
  funext path
  rw [list_eq, list_eq, resolve_congr h, isDirectoryAt?_congr h, refusal?_congr h, h]

theorem depth_congr (h : first.outline = second.outline) : first.depth = second.depth := by
  have hdepth (disk : Disk) : disk.depth =
      disk.outline.kinds.foldl (fun deepest shown ↦ max deepest shown.1.length) 0 := by
    rw [depth, outline, List.foldl_map]
  rw [hdepth, hdepth, h]

end Congruence

end LeafLayout.Disk
