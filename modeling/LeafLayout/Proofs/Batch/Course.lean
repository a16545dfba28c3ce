import LeafLayout.Proofs.Batch.Arrivals
import LeafLayout.Proofs.Glob.Matches

/-!
The course of a batch. Whatever is written to files on the way, each pattern matches what it matched
on the disk as it was at first, and so a batch is no more than the visits to these matches, one
after the other, and the patterns refused. It does not matter how matches are found, if only walks
keep to the outline of a disk.
-/

set_option autoImplicit false

namespace LeafLayout

namespace Job

variable (job : Job)

/-- The visits to some paths in turn. -/
def arrivals (disk : Disk) : List Path → List Arrival
  | [] => []
  | path :: more => ⟨path, job.report disk path⟩ :: arrivals (job.settle disk path) more

theorem outline_foldl_settle (disk : Disk) (paths : List Path) :
    (paths.foldl job.settle disk).outline = disk.outline := by
  induction paths generalizing disk with
  | nil => rfl
  | cons path more ih => rw [List.foldl_cons, ih, outline_settle]

theorem arrivals_append (disk : Disk) (paths more : List Path) :
    job.arrivals disk (paths ++ more) =
      job.arrivals disk paths ++ job.arrivals (paths.foldl job.settle disk) more := by
  induction paths generalizing disk with
  | nil => rfl
  | cons path paths ih => rw [List.cons_append, arrivals, arrivals, ih, List.cons_append]; rfl

theorem page?_of_mem_arrivals {disk : Disk} {paths : List Path} {arrival : Arrival}
    (h : arrival ∈ job.arrivals disk paths) : arrival.report.page? = disk.pageAt? arrival.path := by
  induction paths generalizing disk with
  | nil => cases h
  | cons path more ih =>
    rcases List.mem_cons.mp h with rfl | h
    · exact job.page?_report disk path
    · rw [ih h, pageAt?_settle]

theorem map_path_arrivals (disk : Disk) (paths : List Path) :
    (job.arrivals disk paths).map Arrival.path = paths := by
  induction paths generalizing disk with
  | nil => rfl
  | cons path more ih => rw [arrivals, List.map_cons, ih]

theorem length_arrivals (disk : Disk) (paths : List Path) :
    (job.arrivals disk paths).length = paths.length := by
  rw [← List.length_map Arrival.path, map_path_arrivals]

/-- What is skipped is what is no page, whatever is done to the pages. -/
theorem skipped_ofArrivals (disk : Disk) (paths : List Path) (refused : Nat) :
    (Tally.ofArrivals (job.arrivals disk paths) refused).skipped =
      paths.countP fun path ↦ disk.pageAt? path = none := by
  have hskipped (arrival : Arrival) :
      arrival.heading = .skipped ↔ arrival.report.page? = none := by
    rcases arrival with ⟨path, _ | ⟨place, obstacle | outcome | outcome⟩⟩ <;>
      simp [Arrival.heading, Report.heading, Report.page?]
  conv_rhs => rw [← job.map_path_arrivals disk paths, List.countP_map]
  refine List.countP_congr fun arrival harrival ↦ ?_
  simp only [hskipped, job.page?_of_mem_arrivals harrival, Function.comp_apply]

theorem failedAt?_eq_read_iff_of_mem {disk : Disk} {paths : List Path} {arrival : Arrival}
    (h : arrival ∈ job.arrivals disk paths) :
    arrival.report.failedAt? = some .read ↔ disk.isLocked arrival.path = true := by
  induction paths generalizing disk with
  | nil => cases h
  | cons path more ih =>
    rcases List.mem_cons.mp h with rfl | h
    · exact job.failedAt?_report_eq_read_iff disk path
    · rw [ih h, Disk.isLocked_congr (job.outline_settle disk path)]

/-- Where no writing fails, what fails is to read the pages that may not be read. -/
theorem failed_ofArrivals {disk : Disk} {paths : List Path}
    (hwritten : ∀ arrival ∈ job.arrivals disk paths, arrival.report.failedAt? ≠ some .write)
    (refused : Nat) :
    (Tally.ofArrivals (job.arrivals disk paths) refused).failed =
      paths.countP disk.isLocked + refused := by
  refine congrArg (· + refused) ?_
  conv_rhs => rw [← job.map_path_arrivals disk paths, List.countP_map]
  refine List.countP_congr fun arrival harrival ↦ ?_
  rw [decide_eq_true_eq, Function.comp_apply, ← job.failedAt?_eq_read_iff_of_mem harrival,
    Arrival.heading, Report.heading_eq_failed_iff]
  constructor
  · rintro ⟨access, hfailed⟩
    cases access with
    | read => exact hfailed
    | write => exact absurd hfailed (hwritten arrival harrival)
  · exact fun hfailed ↦ ⟨.read, hfailed⟩

/-- Two courses over the same matches in which no writing fails, on disks with the same outline,
differ only in what they count as changed and what as unchanged. -/
theorem ofArrivals_eq_of_outline_eq {other : Job} {first second : Disk}
    (houtline : first.outline = second.outline) {paths : List Path}
    (hwritten : ∀ arrival ∈ job.arrivals first paths, arrival.report.failedAt? ≠ some .write)
    (hother : ∀ arrival ∈ other.arrivals second paths, arrival.report.failedAt? ≠ some .write)
    (refused : Nat) :
    let tally := Tally.ofArrivals (job.arrivals first paths) refused
    let further := Tally.ofArrivals (other.arrivals second paths) refused
    tally.changed.length ≤ further.changed.length →
      tally =
        { changed := tally.changed
          unchanged := further.unchanged + (further.changed.length - tally.changed.length)
          skipped := further.skipped
          failed := further.failed } := by
  intro tally further hfewer
  have hskipped : tally.skipped = further.skipped := by
    rw [skipped_ofArrivals, skipped_ofArrivals, Disk.pageAt?_congr houtline]
  have hfailed : tally.failed = further.failed := by
    rw [job.failed_ofArrivals hwritten, other.failed_ofArrivals hother,
      Disk.isLocked_congr houtline]
  have htotal : tally.changed.length + tally.unchanged + tally.skipped + tally.failed =
      further.changed.length + further.unchanged + further.skipped + further.failed := by
    rw [Tally.total_ofArrivals, Tally.total_ofArrivals, length_arrivals, length_arrivals]
  have hunchanged : tally.unchanged =
      further.unchanged + (further.changed.length - tally.changed.length) := by
    omega
  rw [← hunchanged, ← hskipped, ← hfailed]

end Job

namespace Batch

variable (job : Job)

theorem foldl_visitPath (batch : Batch) (hdisk : batch.disk.Unambiguous) (paths : List Path) :
    paths.foldl (visitPath job) batch =
      { disk := paths.foldl job.settle batch.disk
        tally := batch.tally.add (Tally.ofArrivals (job.arrivals batch.disk paths) 0)
        events := batch.events ++
          (job.arrivals batch.disk paths).map (Arrival.event job.dryRun) } := by
  induction paths generalizing batch with
  | nil =>
    simp [Job.arrivals, Tally.ofArrivals, Tally.add]
  | cons path more ih =>
    have hafter := (Disk.unambiguous_congr (job.outline_settle batch.disk path)).mpr hdisk
    rw [List.foldl_cons, visitPath_eq job hdisk, ih _ hafter]
    simp only [Job.arrivals, List.foldl_cons, Tally.add_assoc, ← Tally.ofArrivals_append,
      List.append_assoc, List.singleton_append, List.map_cons]

theorem foldl_note {Passed : Type} (event : Passed → Event) (all : List Passed) (batch : Batch) :
    all.foldl (fun batch passed ↦ batch.note (event passed)) batch =
      { batch with events := batch.events ++ all.map event } := by
  induction all generalizing batch with
  | nil => simp
  | cons passed all ih =>
    rw [List.foldl_cons, ih]
    simp only [note, List.append_assoc, List.singleton_append, List.map_cons]

/-- The matches of a pattern are visited and a malformed pattern is refused; more may be told, but
nothing more is done, and no more writing fails. -/
theorem visitPattern_eq (walker : Glob.Walker) (batch : Batch) (hdisk : batch.disk.Unambiguous)
    (pattern : List Char) :
    ∃ notes, (∀ path fault, Event.failed (.write path fault) ∉ notes) ∧
      batch.visitPattern walker job pattern =
      { disk := (walker.pathsOn batch.disk pattern).foldl job.settle batch.disk
        tally := batch.tally.add (Tally.ofArrivals
          (job.arrivals batch.disk (walker.pathsOn batch.disk pattern))
          ([pattern].countP walker.isMalformed))
        events := batch.events ++ notes ++
          (job.arrivals batch.disk (walker.pathsOn batch.disk pattern)).map
            (Arrival.event job.dryRun) } := by
  unfold visitPattern Glob.Walker.pathsOn Glob.Walker.matchesOn
  cases hread : walker pattern with
  | error error =>
    have hmalformed : walker.isMalformed pattern = true := by
      rw [Glob.Walker.isMalformed, hread]
      rfl
    refine ⟨[.failed (.pattern pattern error)], by simp, ?_⟩
    simp [Except.map, hmalformed, fail, note, Job.arrivals, Tally.add, Tally.ofArrivals]
  | ok walk =>
    have hmalformed : walker.isMalformed pattern = false := by
      rw [Glob.Walker.isMalformed, hread]
      rfl
    let found := Glob.Matches.ofFindings (walk batch.disk)
    let passed := found.unreadable.map fun passed : Path × Fault ↦
      Event.unreadable passed.1 passed.2
    simp only [Except.map, foldl_note fun passed : Path × Fault ↦
      Event.unreadable passed.1 passed.2]
    split_ifs
    · refine ⟨passed ++ [.noMatch pattern], by simp [passed], ?_⟩
      refine (foldl_visitPath job { batch with
        events := batch.events ++ passed ++ [.noMatch pattern] } hdisk _).trans ?_
      simp [hmalformed]
    · refine ⟨passed, by simp [passed], ?_⟩
      refine (foldl_visitPath job { batch with events := batch.events ++ passed } hdisk _).trans ?_
      simp [hmalformed]

/-- Induction on the patterns. Later patterns are matched on an amended disk, whose outline is the
one at first. -/
theorem foldl_visitPattern {walker : Glob.Walker} (hwalker : walker.KeepsToOutline) (batch : Batch)
    (hdisk : batch.disk.Unambiguous) (patterns : List (List Char)) :
    let paths := patterns.flatMap (walker.pathsOn batch.disk)
    let after := patterns.foldl (visitPattern walker job) batch
    after.disk = paths.foldl job.settle batch.disk ∧
      after.tally = batch.tally.add (Tally.ofArrivals (job.arrivals batch.disk paths)
        (patterns.countP walker.isMalformed)) ∧
      ∀ path fault, Event.failed (.write path fault) ∈ after.events ↔
        Event.failed (.write path fault) ∈
          batch.events ++ (job.arrivals batch.disk paths).map (Arrival.event job.dryRun) := by
  induction patterns generalizing batch with
  | nil => simp [Job.arrivals, Tally.ofArrivals, Tally.add]
  | cons pattern more ih =>
    obtain ⟨notes, hnotes, hvisit⟩ := visitPattern_eq job walker batch hdisk pattern
    have houtline := job.outline_foldl_settle batch.disk (walker.pathsOn batch.disk pattern)
    have hlater := ih (batch.visitPattern walker job pattern) <| by
      rw [hvisit]
      exact (Disk.unambiguous_congr houtline).mpr hdisk
    simp only [hvisit, hwalker.pathsOn_congr houtline] at hlater
    obtain ⟨hafter, htally, hevents⟩ := hlater
    simp only [List.foldl_cons, List.flatMap_cons, hvisit, List.foldl_append, Job.arrivals_append]
    refine ⟨hafter, ?_, fun path fault ↦ ?_⟩
    · rw [htally, Tally.add_assoc, ← Tally.ofArrivals_append, ← List.countP_append]
      rfl
    · rw [hevents]
      simp only [List.map_append, List.mem_append, hnotes, or_false, or_assoc]

end Batch

namespace Job

variable (job : Job) {walker : Glob.Walker} (hwalker : walker.KeepsToOutline) {disk : Disk}
  (hdisk : disk.Unambiguous) (patterns : List (List Char))

include hwalker hdisk

theorem carryOutBy_disk : (job.carryOutBy walker disk patterns).disk =
    (patterns.flatMap (walker.pathsOn disk)).foldl job.settle disk :=
  (Batch.foldl_visitPattern job hwalker { disk := disk } hdisk patterns).1

theorem outline_carryOutBy : (job.carryOutBy walker disk patterns).disk.outline = disk.outline := by
  rw [job.carryOutBy_disk hwalker hdisk, outline_foldl_settle]

theorem carryOutBy_tally : (job.carryOutBy walker disk patterns).tally =
    Tally.ofArrivals (job.arrivals disk (patterns.flatMap (walker.pathsOn disk)))
      (patterns.countP walker.isMalformed) :=
  (Batch.foldl_visitPattern job hwalker { disk := disk } hdisk patterns).2.1.trans
    (Tally.empty_add _)

/-- Writing fails nowhere in a batch exactly if it fails at no visit. -/
theorem forall_failed_write_notMem_iff :
    (∀ path fault, Event.failed (.write path fault) ∉
      (job.carryOutBy walker disk patterns).events) ↔
      ∀ arrival ∈ job.arrivals disk (patterns.flatMap (walker.pathsOn disk)),
        arrival.report.failedAt? ≠ some .write := by
  have htold (path : Path) (fault : Fault) :
      Event.failed (.write path fault) ∈ (job.carryOutBy walker disk patterns).events ↔
        ∃ arrival ∈ job.arrivals disk (patterns.flatMap (walker.pathsOn disk)),
          arrival.event job.dryRun = Event.failed (.write path fault) := by
    simpa [carryOutBy, Batch.note] using
      (Batch.foldl_visitPattern job hwalker { disk := disk } hdisk patterns).2.2 path fault
  simp only [htold, Ne, Arrival.failedAt?_eq_write_iff job.dryRun]
  constructor
  · rintro h arrival harrival ⟨path, fault, hevent⟩
    exact h path fault ⟨arrival, harrival, hevent⟩
  · rintro h path fault ⟨arrival, harrival, hevent⟩
    exact h arrival harrival ⟨path, fault, hevent⟩

end Job

end LeafLayout
