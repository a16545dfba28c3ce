import LeafLayout.Proofs.Batch.Course
import LeafLayout.Proofs.Glob.Outline
import Mathlib.Data.List.Perm.Basic
import Mathlib.Logic.Function.Iterate

/-!
What a batch leaves of each file, and that the order of its patterns does not matter. Every file is
rewritten as often as a page among the matches designates it, whatever happens to other files, and
visits to different files do not meet; two visits to one file may be swapped because they do the
same.
-/

set_option autoImplicit false

namespace LeafLayout

open Text

namespace Glob.Walker

/-- How many matches of the patterns are pages that designate the file at a place. -/
def visitCount (walker : Walker) (disk : Disk) (patterns : List (List Char)) (place : Place) :
    Nat :=
  (patterns.flatMap (walker.pathsOn disk)).countP fun path ↦ disk.pageAt? path = some place

/-- A file whose name has another extension is never visited. -/
theorem visitCount_eq_zero {walker : Walker} {disk : Disk} (patterns : List (List Char))
    {place : Place}
    (h : ∀ name, place.getLast? = some name → Path.hasHtmlExtension name = false) :
    walker.visitCount disk patterns place = 0 := by
  refine List.countP_eq_zero.mpr fun path _ hpage ↦ ?_
  obtain ⟨name, hname, hextension⟩ :=
    Disk.hasHtmlExtension_of_pageAt?_eq_some (of_decide_eq_true hpage)
  rw [h name hname] at hextension
  cases hextension

end Glob.Walker

namespace Job

variable (job : Job)

/-! ### The files -/

/-- Every file is rewritten once for every visit to it. -/
theorem foldl_settle (disk : Disk) (paths : List Path) :
    paths.foldl job.settle disk = disk.amend fun place ↦
      (job.revised (disk.refusal? place))^[paths.countP fun path ↦
        disk.pageAt? path = some place] := by
  induction paths generalizing disk with
  | nil => exact disk.amend_id.symm
  | cons path more ih =>
    rw [List.foldl_cons, ih, pageAt?_settle, refusal?_settle]
    cases hpage : disk.pageAt? path with
    | none => simp [settle, hpage]
    | some page =>
      rw [settle, hpage, Option.elim_some, Disk.amend_amend]
      congr 1
      funext place content
      by_cases hplace : place = page
      · simp [Disk.onlyAt, hplace, hpage]
      · simp [Disk.onlyAt, hplace, hpage, Ne.symm hplace]

theorem foldl_settle_perm {paths others : List Path} (h : paths.Perm others) (disk : Disk) :
    paths.foldl job.settle disk = others.foldl job.settle disk := by
  simp only [foldl_settle, h.countP_eq]

/-! ### The reports -/

theorem report_of_pageAt?_eq {disk : Disk} {path other : Path}
    (h : disk.pageAt? path = disk.pageAt? other) :
    job.report disk path = job.report disk other := by
  rw [report, report, h]

theorem settle_of_pageAt?_eq {disk : Disk} {path other : Path}
    (h : disk.pageAt? path = disk.pageAt? other) :
    job.settle disk path = job.settle disk other := by
  rw [settle, settle, h]

/-- A visit does not tell of other files. -/
theorem report_settle {disk : Disk} {path other : Path}
    (h : disk.pageAt? path ≠ disk.pageAt? other) :
    job.report (job.settle disk path) other = job.report disk other := by
  rw [report, report, pageAt?_settle, refusal?_settle]
  cases hother : disk.pageAt? other with
  | none => rfl
  | some place =>
    have helsewhere : disk.pageAt? path ≠ some place := hother ▸ h
    simp only [contentAt?_settle, if_neg helsewhere, Option.map_id, id]

def reports (disk : Disk) (paths : List Path) : List Report :=
  (job.arrivals disk paths).map Arrival.report

theorem reports_cons (disk : Disk) (path : Path) (more : List Path) :
    job.reports disk (path :: more) =
      job.report disk path :: job.reports (job.settle disk path) more :=
  rfl

theorem reports_swap (disk : Disk) (path other : Path) (more : List Path) :
    (job.reports disk (other :: path :: more)).Perm (job.reports disk (path :: other :: more)) := by
  have hafter : job.settle (job.settle disk other) path = job.settle (job.settle disk path) other :=
    job.foldl_settle_perm (.swap path other []) disk
  simp only [reports_cons, hafter]
  by_cases h : disk.pageAt? path = disk.pageAt? other
  · rw [job.report_of_pageAt?_eq h.symm, job.settle_of_pageAt?_eq h.symm]
    have hagain : (job.settle disk path).pageAt? path = (job.settle disk path).pageAt? other := by
      rw [pageAt?_settle, h]
    rw [job.report_of_pageAt?_eq hagain]
  · rw [job.report_settle h, job.report_settle (Ne.symm h)]
    exact .swap _ _ _

theorem reports_perm {paths others : List Path} (h : paths.Perm others) (disk : Disk) :
    (job.reports disk paths).Perm (job.reports disk others) := by
  induction h generalizing disk with
  | nil => exact .nil
  | cons path _ ih => exact (ih (job.settle disk path)).cons _
  | swap path other more => exact job.reports_swap disk path other more
  | trans _ _ ihfirst ihsecond => exact (ihfirst disk).trans (ihsecond disk)

/-! ### The tally -/

/-- A tally counts reports, and names the files that changed by some path to each. -/
theorem ofArrivals_arrivals (disk : Disk) (paths : List Path) (refused : Nat) :
    let tally := Tally.ofArrivals (job.arrivals disk paths) refused
    let reports := job.reports disk paths
    tally.changed.map disk.pageAt? =
        (reports.filter (·.heading = .changed)).map Report.page? ∧
      tally.unchanged = reports.countP (·.heading = .unchanged) ∧
      tally.skipped = reports.countP (·.heading = .skipped) ∧
      tally.failed = reports.countP (·.heading = .failed) + refused := by
  have hcount (heading : Heading) : (job.arrivals disk paths).countP (·.heading = heading) =
      (job.reports disk paths).countP (·.heading = heading) := by
    rw [reports, List.countP_map]
    rfl
  refine ⟨?_, hcount _, hcount _, congrArg (· + refused) (hcount _)⟩
  simp only [Tally.ofArrivals, reports, List.filter_map, List.map_map]
  refine List.map_congr_left fun arrival harrival ↦ ?_
  exact (job.page?_of_mem_arrivals (List.mem_of_mem_filter harrival)).symm

theorem tally_perm {paths others : List Path} (h : paths.Perm others) (disk : Disk)
    (refused : Nat) :
    let first := Tally.ofArrivals (job.arrivals disk paths) refused
    let second := Tally.ofArrivals (job.arrivals disk others) refused
    (first.changed.map disk.pageAt?).Perm (second.changed.map disk.pageAt?) ∧
      first.changed.length = second.changed.length ∧ first.unchanged = second.unchanged ∧
      first.skipped = second.skipped ∧ first.failed = second.failed := by
  obtain ⟨hchanged, hunchanged, hskipped, hfailed⟩ := job.ofArrivals_arrivals disk paths refused
  obtain ⟨hchanged', hunchanged', hskipped', hfailed'⟩ :=
    job.ofArrivals_arrivals disk others refused
  have hreports := job.reports_perm h disk
  have hpages := (hreports.filter (·.heading = .changed)).map Report.page?
  rw [← hchanged, ← hchanged'] at hpages
  refine ⟨hpages, by simpa using hpages.length_eq, ?_, ?_, ?_⟩
  · rw [hunchanged, hunchanged', hreports.countP_eq]
  · rw [hskipped, hskipped', hreports.countP_eq]
  · rw [hfailed, hfailed', hreports.countP_eq]

/-! ### The batch -/

section Batch

variable {walker : Glob.Walker} (hwalker : walker.KeepsToOutline) {disk : Disk}
  (hdisk : disk.Unambiguous) (patterns : List (List Char))

include hwalker hdisk

theorem carryOutBy_disk_eq_amend :
    (job.carryOutBy walker disk patterns).disk = disk.amend fun place ↦
      (job.revised (disk.refusal? place))^[walker.visitCount disk patterns place] :=
  (job.carryOutBy_disk hwalker hdisk patterns).trans (job.foldl_settle disk _)

/-- Patterns in another order have the same matches in another order. -/
theorem carryOutBy_perm {others : List (List Char)} (h : patterns.Perm others) :
    let batch := job.carryOutBy walker disk patterns
    let other := job.carryOutBy walker disk others
    other.disk = batch.disk ∧
      (other.tally.changed.map disk.pageAt?).Perm (batch.tally.changed.map disk.pageAt?) ∧
      other.tally.changed.length = batch.tally.changed.length ∧
      other.tally.unchanged = batch.tally.unchanged ∧
      other.tally.skipped = batch.tally.skipped ∧
      other.tally.failed = batch.tally.failed := by
  intro batch other
  have hpaths := h.symm.flatMap_right (walker.pathsOn disk)
  have hrefused : others.countP walker.isMalformed = patterns.countP walker.isMalformed :=
    h.symm.countP_eq walker.isMalformed
  constructor
  · rw [job.carryOutBy_disk hwalker hdisk, job.carryOutBy_disk hwalker hdisk]
    exact job.foldl_settle_perm hpaths disk
  · simp only [batch, other, job.carryOutBy_tally hwalker hdisk, hrefused]
    exact job.tally_perm hpaths disk _

end Batch

end Job

/-- A batch keeps all places, and rewrites the file at each as often as a match of a pattern is a
page that designates it, be there a limit or not, unless the system refuses to read or to write it;
so it leaves alone the files that no match designates, among them those without the extension of a
page. In another order the patterns leave the same disk and change the same files equally often, and
no number of the tally differs. -/
theorem Job.carryOut_rewrites_each_file (style : Style) (limit : Option Nat) (disk : Disk)
    (hdisk : disk.Unambiguous) (patterns : List (List Char)) :
    let batch := Job.carryOut { style, limit } disk patterns
    let visitCount := Glob.walker.visitCount disk patterns
    batch.disk.outline = disk.outline ∧
    (∀ place content, disk.entryAt? place = some (.file content) →
      disk.refusal? place .read = none → disk.refusal? place .write = none →
      batch.disk.entryAt? place =
        some (.file ((style.rewritten limit)^[visitCount place] content))) ∧
    (∀ place, visitCount place = 0 ∨ (∃ access fault, disk.refusal? place access = some fault) →
      batch.disk.entryAt? place = disk.entryAt? place) ∧
    (∀ place, (∀ name, place.getLast? = some name → Path.hasHtmlExtension name = false) →
      visitCount place = 0) ∧
    ∀ others, patterns.Perm others →
      let other := Job.carryOut { style, limit } disk others
      other.disk = batch.disk ∧
      (other.tally.changed.map disk.pageAt?).Perm (batch.tally.changed.map disk.pageAt?) ∧
      other.tally.changed.length = batch.tally.changed.length ∧
      other.tally.unchanged = batch.tally.unchanged ∧
      other.tally.skipped = batch.tally.skipped ∧
      other.tally.failed = batch.tally.failed := by
  intro batch visitCount
  let job : Job := { style, limit }
  have hafter : batch.disk = disk.amend fun place ↦
      (job.revised (disk.refusal? place))^[visitCount place] :=
    job.carryOutBy_disk_eq_amend Glob.walker_keepsToOutline hdisk patterns
  refine ⟨?_, fun place content hfile hread hwrite ↦ ?_, fun place hkept ↦ ?_,
    fun place ↦ Glob.Walker.visitCount_eq_zero patterns, fun others hperm ↦ ?_⟩
  · exact job.outline_carryOutBy Glob.walker_keepsToOutline hdisk patterns
  · have hrevised : job.revised (disk.refusal? place) = style.rewritten limit :=
      funext fun before ↦ if_pos ⟨hread, hwrite, rfl⟩
    rw [hafter, Disk.entryAt?_amend, hfile, hrevised]
    rfl
  · have hid : (job.revised (disk.refusal? place))^[visitCount place] = id := by
      rcases hkept with hnone | ⟨access, fault, hrefused⟩
      · rw [hnone, Function.iterate_zero]
      · rw [job.revised_of_refused hrefused, Function.iterate_id]
    have hentry : (Entry.amend id : Entry → Entry) = id := funext Entry.amend_id
    rw [hafter, Disk.entryAt?_amend, hid, hentry, Option.map_id, id]
  · exact job.carryOutBy_perm Glob.walker_keepsToOutline hdisk patterns hperm

/-- A directory with a page and a file that is none. -/
def Disk.shelf : Disk :=
  ((Disk.empty []).putFile ["a.html".toList] (Utf8.encode "<p>x</p>".toList)).putFile
    ["b.txt".toList] [0xff]

/-- The page is reached by two paths and grows by a dash with each of them, but not past the
limit. -/
theorem Job.carryOut_shelf :
    Disk.shelf.Unambiguous ∧
      (Job.carryOut { style := { indent := ['-'] }, limit := some 11 } Disk.shelf
        ["a.html".toList, "[".toList, "/a.html".toList]).disk.entryAt? ["a.html".toList] =
          some (.file (Utf8.encode "<p>\n--x\n</p".toList)) := by
  have hdisk : Disk.shelf.Unambiguous :=
    ((Disk.unambiguous_empty []).putFile _ _).putFile _ _
  have hvisits : Glob.walker.visitCount Disk.shelf ["a.html".toList, "[".toList, "/a.html".toList]
      ["a.html".toList] = 2 := by
    decide +kernel
  have hpage : Disk.shelf.entryAt? ["a.html".toList] =
      some (.file (Utf8.encode "<p>x</p>".toList)) := by
    decide
  have hafter := (Job.carryOut_rewrites_each_file { indent := ['-'] } (some 11) Disk.shelf hdisk
    ["a.html".toList, "[".toList, "/a.html".toList]).2.1 _ _ hpage rfl rfl
  rw [hvisits] at hafter
  refine ⟨hdisk, hafter.trans ?_⟩
  decide +kernel

end LeafLayout
