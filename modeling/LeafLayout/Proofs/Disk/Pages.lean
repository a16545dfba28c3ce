import LeafLayout.Proofs.Disk.Amendment

/-!
Which file a path designates, and what comes of reading and writing it. Two paths may lead to the
same file, but whether it counts as a page does not hang on how it is reached: the last piece of a
path to a file is the file's own name. Nor does it hang on what the system refuses, so that a page
may be there and not be read.
-/

set_option autoImplicit false

namespace LeafLayout

namespace Path

theorem ofPiece?_eq_down {name : Name} (hne : name ≠ []) (hhere : name ≠ ['.'])
    (hup : name ≠ ['.', '.']) : Step.ofPiece? name = some (.down name) := by
  unfold Step.ofPiece?
  split
  · exact absurd rfl hne
  · exact absurd rfl hhere
  · exact absurd rfl hup
  · rfl

/-- The last step of a path is that of its last piece, if that piece is one. -/
theorem getLast?_steps {path : Path} {pieces : List Name} {last : Name} {step : Step}
    (hpieces : path.pieces = pieces ++ [last]) (hstep : Step.ofPiece? last = some step) :
    path.steps.getLast? = some step := by
  have hsteps (pieces : List Name) : (pieces ++ [last]).filterMap Step.ofPiece? =
      pieces.filterMap Step.ofPiece? ++ [step] := by
    simp [List.filterMap_append, hstep]
  unfold steps
  rw [hpieces]
  split_ifs
  · rw [hsteps, ← List.cons_append, List.getLast?_concat]
  · split
    · next more hhere =>
      rcases pieces with _ | ⟨first, pieces⟩
      · obtain ⟨rfl, -⟩ := List.cons.inj hhere
        cases hstep
      · have hmore : pieces ++ [last] = more := (List.cons.inj hhere).2
        rw [← hmore, hsteps, ← List.cons_append, List.getLast?_concat]
    · rw [hsteps, List.getLast?_concat]

theorem fileName?_eq_some {path : Path} {pieces : List Name} {last : Name}
    (hpieces : path.pieces = pieces ++ [last]) (hstep : Step.ofPiece? last = some (.down last)) :
    path.fileName? = some last := by
  rw [fileName?, getLast?_steps hpieces hstep]

/-- What a path ends in is all that counts for its extension. -/
theorem hasHtmlExtension_eq {path : Path} {pieces : List Name} {last : Name}
    (hpieces : path.pieces = pieces ++ [last]) (hstep : Step.ofPiece? last = some (.down last)) :
    path.hasHtmlExtension = hasHtmlExtension last := by
  have hlast : last ∈ path.pieces := by
    rw [hpieces]
    exact List.mem_append_right _ List.mem_cons_self
  have hplain : '/' ∉ last := Text.notMem_of_mem_pieces hlast
  have halone : Path.pieces last = [] ++ [last] := Text.pieces_of_notMem hplain
  rw [hasHtmlExtension, hasHtmlExtension, extension?, extension?, fileName?_eq_some hpieces hstep,
    fileName?_eq_some halone hstep]

end Path

namespace Disk

theorem follow_concat (disk : Disk) (place : Place) (pieces : List Name) (last : Name) :
    disk.follow place (pieces ++ [last]) =
      (disk.follow place pieces).bind fun reached ↦ disk.follow reached [last] := by
  induction pieces generalizing place with
  | nil => rfl
  | cons piece pieces ih =>
    rw [List.cons_append, follow_cons, follow_cons]
    split
    · rfl
    · rfl
    · split_ifs
      · exact ih place
      · exact ih place.dropLast
      · rfl
      · rfl
      · exact ih (place ++ [piece])

/-- What the last piece of a path may do. -/
theorem follow_last {disk : Disk} {place reached : Place} {last : Name}
    (h : disk.follow place [last] = .ok reached) :
    disk.isDirectoryAt? place = some true ∧
      ((last = [] ∨ last = ['.']) ∧ reached = place ∨ last = ['.', '.'] ∨
        Path.Step.ofPiece? last = some (.down last) ∧ reached = place ++ [last]) := by
  rw [follow_cons] at h
  split at h
  · cases h
  · cases h
  · next hdirectory =>
    refine ⟨hdirectory, ?_⟩
    split_ifs at h with hstay hup
    · exact Or.inl ⟨hstay, (Except.ok.inj h).symm⟩
    · exact Or.inr (Or.inl hup)
    · rw [not_or] at hstay
      exact Or.inr (Or.inr ⟨Path.ofPiece?_eq_down hstay.1 hstay.2 hup, (Except.ok.inj h).symm⟩)

theorem isFile_eq (disk : Disk) (path : Path) :
    disk.isFile path =
      (disk.resolve path).toOption.any fun place ↦ (disk.contentAt? place).isSome := by
  unfold isFile entry? contentAt?
  cases disk.resolve path with
  | error fault => rfl
  | ok place =>
    simp only [bind, Except.bind, Except.toOption, Option.any_some]
    cases disk.entryAt? place with
    | none => rfl
    | some entry => cases entry <;> rfl

/-- The place of the page that a path designates, if it does. -/
def pageAt? (disk : Disk) (path : Path) : Option Place :=
  if disk.isPage path then (disk.resolve path).toOption else none

theorem pageAt?_congr {first second : Disk} (h : first.outline = second.outline) :
    first.pageAt? = second.pageAt? := by
  funext path
  rw [pageAt?, pageAt?, isPage_congr h, resolve_congr h]

theorem pageAt?_eq_some_iff (disk : Disk) (path : Path) (place : Place) :
    disk.pageAt? path = some place ↔ path.hasHtmlExtension = true ∧
      disk.resolve path = .ok place ∧ ∃ content, disk.contentAt? place = some content := by
  rw [pageAt?, isPage, isFile_eq, ← Option.isSome_iff_exists]
  cases disk.resolve path with
  | error fault => simp [Except.toOption]
  | ok there =>
    simp only [Except.toOption, Option.any_some, Bool.and_eq_true, Option.ite_none_right_eq_some,
      Option.some.injEq, Except.ok.injEq]
    constructor
    · rintro ⟨⟨hfile, hextension⟩, rfl⟩
      exact ⟨hextension, rfl, hfile⟩
    · rintro ⟨hextension, rfl, hfile⟩
      exact ⟨⟨hfile, hextension⟩, rfl⟩

theorem pageAt?_eq_none_iff (disk : Disk) (path : Path) :
    disk.pageAt? path = none ↔ disk.isPage path = false := by
  rw [pageAt?, isPage, isFile_eq]
  cases disk.resolve path with
  | error fault => simp [Except.toOption]
  | ok there => simp [Except.toOption]

/-! ### Reading and writing -/

/-- Why an access to what a path leads to is refused, if it is. -/
def refused? (disk : Disk) (path : Path) (access : Access) : Option Fault :=
  (disk.resolve path).toOption.bind fun place ↦ disk.refusal? place access

theorem refused?_of_resolve {disk : Disk} {path : Path} {place : Place}
    (hresolve : disk.resolve path = .ok place) (access : Access) :
    disk.refused? path access = disk.refusal? place access := by
  rw [refused?, hresolve]
  rfl

/-- A path designates a page that the system refuses to read. -/
def isLocked (disk : Disk) (path : Path) : Bool :=
  (disk.pageAt? path).any fun place ↦ (disk.refusal? place .read).isSome

theorem isLocked_congr {first second : Disk} (h : first.outline = second.outline) :
    first.isLocked = second.isLocked := by
  funext path
  rw [isLocked, isLocked, pageAt?_congr h, refusal?_congr h]

theorem read_of_contentAt? {disk : Disk} {path : Path} {place : Place} {content : List UInt8}
    (hresolve : disk.resolve path = .ok place) (hcontent : disk.contentAt? place = some content) :
    disk.read path = (disk.refusal? place .read).elim (.ok content) .error := by
  rw [read, hresolve]
  simp only [bind, Except.bind, (contentAt?_eq_some_iff disk place content).mp hcontent]
  cases disk.refusal? place .read <;> rfl

/-- What can be read is what is in a file that the system does not refuse to read. -/
theorem read_eq_ok_iff {disk : Disk} {path : Path} {content : List UInt8} :
    disk.read path = .ok content ↔
      ∃ place, disk.resolve path = .ok place ∧ disk.contentAt? place = some content ∧
        disk.refusal? place .read = none := by
  constructor
  · intro h
    unfold read at h
    cases hresolve : disk.resolve path with
    | error fault =>
      rw [hresolve] at h
      cases h
    | ok place =>
      rw [hresolve] at h
      refine ⟨place, rfl, ?_⟩
      rw [contentAt?_eq_some_iff]
      simp only [bind, Except.bind] at h
      split at h
      · cases h
      · cases h
      · cases h
      · next octets hentry hgranted => exact ⟨hentry.trans (by rw [Except.ok.inj h]), hgranted⟩
  · rintro ⟨place, hresolve, hcontent, hgranted⟩
    rw [read_of_contentAt? hresolve hcontent, hgranted, Option.elim_none]

/-- What cannot be read is no file, or is refused. -/
theorem read_eq_error_iff (disk : Disk) (path : Path) :
    (∃ fault, disk.read path = .error fault) ↔
      disk.isFile path = false ∨ (disk.refused? path .read).isSome = true := by
  have hread : (∃ fault, disk.read path = .error fault) ↔
      ¬ ∃ content, disk.read path = .ok content := by
    cases disk.read path <;> simp
  rw [hread, isFile_eq, refused?]
  simp only [read_eq_ok_iff]
  cases disk.resolve path with
  | error fault => simp [Except.toOption]
  | ok place =>
    cases hcontent : disk.contentAt? place with
    | none => simp [Except.toOption, hcontent]
    | some content => simp [Except.toOption, hcontent, Option.isSome_iff_ne_none]

/-- After an amendment each path reads the amended content. -/
theorem read_amend {disk : Disk} {path : Path} {place : Place} {content : List UInt8}
    (change : Place → List UInt8 → List UInt8) (hresolve : disk.resolve path = .ok place)
    (hcontent : disk.contentAt? place = some content)
    (hgranted : disk.refusal? place .read = none) :
    (disk.amend change).read path = .ok (change place content) := by
  have houtline := disk.outline_amend change
  rw [← resolve_congr houtline] at hresolve
  rw [← refusal?_congr houtline] at hgranted
  rw [read_eq_ok_iff]
  refine ⟨place, hresolve, ?_, hgranted⟩
  rw [contentAt?_amend, hcontent, Option.map_some]

section Overwrite

variable {disk : Disk} {path : Path} {place : Place} {content : List UInt8}
  (hresolve : disk.resolve path = .ok place) (hcontent : disk.contentAt? place = some content)

include hresolve hcontent

theorem overwrite_of_refused {fault : Fault} (hrefused : disk.refusal? place .write = some fault)
    (limit : Option Nat) (octets : List UInt8) :
    disk.overwrite limit path octets = (disk, .error fault) := by
  rw [overwrite, hresolve]
  simp only [(contentAt?_eq_some_iff disk place content).mp hcontent, hrefused]

/-- Overwriting a file amends it at its place; the limit decides how much is kept and whether the
rest is missed. -/
theorem Unambiguous.overwrite_eq (hdisk : disk.Unambiguous)
    (hgranted : disk.refusal? place .write = none) (limit : Option Nat) (octets : List UInt8) :
    disk.overwrite limit path octets =
      (disk.amend (onlyAt place fun _ ↦ limit.elim octets octets.take),
        if limit.any (· < octets.length) then .error .fileTooLarge else .ok ()) := by
  rw [overwrite, hresolve]
  simp only [(contentAt?_eq_some_iff disk place content).mp hcontent, hgranted]
  cases limit with
  | none => exact Prod.ext (hdisk.set_eq_amend hcontent fun _ ↦ octets) rfl
  | some n =>
    refine Prod.ext (hdisk.set_eq_amend hcontent fun _ ↦ octets.take n) ?_
    simp only [Option.any_some, decide_eq_true_eq]

end Overwrite

/-- A page is a file whose own name has the extension, however it is reached. -/
theorem hasHtmlExtension_of_pageAt?_eq_some {disk : Disk} {path : Path} {place : Place}
    (h : disk.pageAt? path = some place) :
    ∃ name, place.getLast? = some name ∧ Path.hasHtmlExtension name = true := by
  obtain ⟨hextension, hresolve, content, hcontent⟩ := (disk.pageAt?_eq_some_iff path place).mp h
  obtain ⟨before, last, hpieces⟩ :=
    (List.eq_nil_or_concat path.pieces).resolve_left (Text.pieces_ne_nil '/' path)
  rw [List.concat_eq_append] at hpieces
  obtain ⟨start, hfollow⟩ : ∃ start, disk.follow start (before ++ [last]) = .ok place := by
    unfold resolve at hresolve
    rw [hpieces] at hresolve
    split_ifs at hresolve
    · exact ⟨_, hresolve⟩
    · exact ⟨_, hresolve⟩
  rw [follow_concat] at hfollow
  cases hreached : disk.follow start before with
  | error fault =>
    rw [hreached] at hfollow
    cases hfollow
  | ok reached =>
    rw [hreached] at hfollow
    obtain ⟨hdirectory, ⟨-, rfl⟩ | rfl | ⟨hstep, rfl⟩⟩ := follow_last hfollow
    · rw [isDirectoryAt?, (contentAt?_eq_some_iff disk place content).mp hcontent] at hdirectory
      cases hdirectory
    · have hnone : path.fileName? = none := by
        rw [Path.fileName?, Path.getLast?_steps hpieces rfl]
      rw [Path.hasHtmlExtension, Path.extension?, hnone] at hextension
      cases hextension
    · refine ⟨last, List.getLast?_concat, ?_⟩
      rwa [← Path.hasHtmlExtension_eq hpieces hstep]

end Disk

end LeafLayout
