import LeafLayout.Proofs.Batch.Verdicts

/-!
A visit to a path. On a page, what is written and what is told of it depend on the page's content
and on what the system refuses of it, so a visit amends the disk at one place and adds one report to
the tally; nothing else of the disk, and nothing of what was done before, has a part in it.
-/

set_option autoImplicit false

namespace LeafLayout

/-- Under which number of the tally a visit is counted. -/
inductive Heading where
  | changed
  | unchanged
  | skipped
  | failed
deriving DecidableEq, Repr

inductive Report where
  | skipped
  | page (place : Place) (verdict : Except Obstacle Outcome)

namespace Report

def heading : Report → Heading
  | .skipped => .skipped
  | .page _ (.ok .changed) => .changed
  | .page _ (.ok .unchanged) => .unchanged
  | .page _ (.error _) => .failed

def page? : Report → Option Place
  | .skipped => none
  | .page place _ => some place

/-- The access at which the layout of a page failed, if it did. -/
def failedAt? : Report → Option Access
  | .page _ (.error obstacle) => some obstacle.access
  | _ => none

theorem failedAt?_page (place : Place) (verdict : Except Obstacle Outcome) (access : Access) :
    (page place verdict).failedAt? = some access ↔ ∃ fault, verdict = .error ⟨access, fault⟩ := by
  rcases verdict with ⟨found, fault⟩ | outcome
  · simp [failedAt?]
  · simp [failedAt?]

theorem heading_page_eq_changed_iff (place : Place) (verdict : Except Obstacle Outcome) :
    (page place verdict).heading = .changed ↔ verdict = .ok .changed := by
  rcases verdict with obstacle | outcome | outcome <;> simp [heading]

theorem heading_eq_failed_iff (report : Report) :
    report.heading = .failed ↔ ∃ access, report.failedAt? = some access := by
  rcases report with _ | ⟨place, obstacle | outcome | outcome⟩ <;> simp [heading, failedAt?]

end Report

/-- A path that a batch has come to, and what it reports of it. -/
structure Arrival where
  path : Path
  report : Report

namespace Arrival

def heading (arrival : Arrival) : Heading :=
  arrival.report.heading

def event (dryRun : Bool) (arrival : Arrival) : Event :=
  match arrival.report with
  | .skipped => .skipped arrival.path
  | .page _ (.ok .changed) => .changed arrival.path dryRun
  | .page _ (.ok .unchanged) => .unchanged arrival.path
  | .page _ (.error obstacle) => .failed (obstacle.failure arrival.path)

theorem failedAt?_eq_write_iff (dryRun : Bool) (arrival : Arrival) :
    arrival.report.failedAt? = some .write ↔
      ∃ path fault, arrival.event dryRun = .failed (.write path fault) := by
  rcases arrival with ⟨path, _ | ⟨place, ⟨_ | _, fault⟩ | outcome | outcome⟩⟩ <;>
    simp [event, Report.failedAt?, Obstacle.failure]

end Arrival

namespace Tally

def add (first second : Tally) : Tally where
  changed := first.changed ++ second.changed
  unchanged := first.unchanged + second.unchanged
  skipped := first.skipped + second.skipped
  failed := first.failed + second.failed

/-- The tally of some arrivals and of a number of refused patterns. -/
def ofArrivals (arrivals : List Arrival) (refused : Nat) : Tally where
  changed := (arrivals.filter (·.heading = .changed)).map Arrival.path
  unchanged := arrivals.countP (·.heading = .unchanged)
  skipped := arrivals.countP (·.heading = .skipped)
  failed := arrivals.countP (·.heading = .failed) + refused

theorem add_assoc (first second third : Tally) :
    (first.add second).add third = first.add (second.add third) := by
  simp only [add, List.append_assoc, Nat.add_assoc]

theorem empty_add (tally : Tally) : ({} : Tally).add tally = tally := by
  simp only [add, List.nil_append, Nat.zero_add]

theorem ofArrivals_append (arrivals more : List Arrival) (refused further : Nat) :
    ofArrivals (arrivals ++ more) (refused + further) =
      (ofArrivals arrivals refused).add (ofArrivals more further) := by
  simp only [ofArrivals, add, List.filter_append, List.map_append, List.countP_append,
    Tally.mk.injEq, true_and]
  omega

theorem length_changed_ofArrivals (arrivals : List Arrival) (refused : Nat) :
    (ofArrivals arrivals refused).changed.length = arrivals.countP (·.heading = .changed) := by
  rw [ofArrivals, List.length_map, List.countP_eq_length_filter]

/-- Every arrival and every refusal is counted once. -/
theorem total_ofArrivals (arrivals : List Arrival) (refused : Nat) :
    (ofArrivals arrivals refused).changed.length + (ofArrivals arrivals refused).unchanged +
        (ofArrivals arrivals refused).skipped + (ofArrivals arrivals refused).failed =
      arrivals.length + refused := by
  rw [length_changed_ofArrivals]
  simp only [ofArrivals]
  induction arrivals with
  | nil => simp
  | cons arrival more ih =>
    simp only [List.countP_cons, List.length_cons]
    cases arrival.heading <;> simp <;> omega

end Tally

namespace Job

def report (job : Job) (disk : Disk) (path : Path) : Report :=
  match disk.pageAt? path with
  | none => .skipped
  | some place => (disk.contentAt? place).elim .skipped fun content ↦
      .page place (job.verdict (disk.refusal? place) content)

/-- The disk after a visit. -/
def settle (job : Job) (disk : Disk) (path : Path) : Disk :=
  (disk.pageAt? path).elim disk fun place ↦
    disk.amend (Disk.onlyAt place (job.revised (disk.refusal? place)))

theorem outline_settle (job : Job) (disk : Disk) (path : Path) :
    (job.settle disk path).outline = disk.outline := by
  unfold settle
  cases disk.pageAt? path with
  | none => rfl
  | some place => exact disk.outline_amend _

theorem pageAt?_settle (job : Job) (disk : Disk) (path : Path) :
    (job.settle disk path).pageAt? = disk.pageAt? :=
  Disk.pageAt?_congr (job.outline_settle disk path)

theorem refusal?_settle (job : Job) (disk : Disk) (path : Path) :
    (job.settle disk path).refusal? = disk.refusal? :=
  Disk.refusal?_congr (job.outline_settle disk path)

theorem contentAt?_settle (job : Job) (disk : Disk) (path : Path) (place : Place) :
    (job.settle disk path).contentAt? place = (disk.contentAt? place).map
      (if disk.pageAt? path = some place then job.revised (disk.refusal? place) else id) := by
  unfold settle
  cases hpage : disk.pageAt? path with
  | none => rw [if_neg (Option.some_ne_none place).symm, Option.map_id, id, Option.elim_none]
  | some page =>
    rw [Option.elim_some, Disk.contentAt?_amend]
    congr 1
    funext content
    by_cases hplace : place = page
    · rw [Disk.onlyAt, if_pos hplace, if_pos (congrArg some hplace.symm), hplace]
    · rw [Disk.onlyAt, if_neg hplace, if_neg fun h ↦ hplace (Option.some.inj h).symm, id]

theorem report_of_contentAt? (job : Job) {disk : Disk} {path : Path} {place : Place}
    {content : List UInt8} (hpage : disk.pageAt? path = some place)
    (hcontent : disk.contentAt? place = some content) :
    job.report disk path = .page place (job.verdict (disk.refusal? place) content) := by
  simp only [report, hpage, hcontent, Option.elim_some]

/-- What is no page is skipped, and on a page there is a content to be laid out. -/
theorem report_cases (job : Job) (disk : Disk) (path : Path) :
    disk.pageAt? path = none ∧ job.report disk path = .skipped ∨
      ∃ place content, disk.pageAt? path = some place ∧ disk.contentAt? place = some content ∧
        job.report disk path = .page place (job.verdict (disk.refusal? place) content) := by
  cases hpage : disk.pageAt? path with
  | none => exact Or.inl ⟨rfl, by rw [report, hpage]⟩
  | some place =>
    obtain ⟨-, -, content, hcontent⟩ := (disk.pageAt?_eq_some_iff path place).mp hpage
    exact Or.inr ⟨place, content, rfl, hcontent, job.report_of_contentAt? hpage hcontent⟩

theorem page?_report (job : Job) (disk : Disk) (path : Path) :
    (job.report disk path).page? = disk.pageAt? path := by
  rcases job.report_cases disk path with ⟨hpage, hreport⟩ | ⟨place, content, hpage, -, hreport⟩
  · rw [hreport, hpage, Report.page?]
  · rw [hreport, hpage, Report.page?]

/-- Reading fails at just those pages that may not be read. -/
theorem failedAt?_report_eq_read_iff (job : Job) (disk : Disk) (path : Path) :
    (job.report disk path).failedAt? = some .read ↔ disk.isLocked path = true := by
  rw [Disk.isLocked]
  rcases job.report_cases disk path with ⟨hpage, hreport⟩ | ⟨place, content, hpage, -, hreport⟩
  · simp [hpage, hreport, Report.failedAt?]
  · rw [hreport, hpage, Report.failedAt?_page, Option.any_some, Option.isSome_iff_exists]
    exact exists_congr fun fault ↦ verdict_eq_read_error_iff

end Job

namespace Batch

/-- Whatever was visited before, a visit amends the disk, adds to the tally and is told. -/
theorem visitPath_eq (job : Job) {batch : Batch} (hdisk : batch.disk.Unambiguous) (path : Path) :
    batch.visitPath job path =
      { disk := job.settle batch.disk path
        tally := batch.tally.add (Tally.ofArrivals [⟨path, job.report batch.disk path⟩] 0)
        events := batch.events ++
          [Arrival.event job.dryRun ⟨path, job.report batch.disk path⟩] } := by
  unfold visitPath Job.settle Job.report
  cases hpage : batch.disk.pageAt? path with
  | none =>
    simp only [(batch.disk.pageAt?_eq_none_iff path).mp hpage]
    simp [note, Tally.add, Tally.ofArrivals, Arrival.heading, Arrival.event, Report.heading]
  | some place =>
    obtain ⟨hextension, hresolve, content, hcontent⟩ :=
      (batch.disk.pageAt?_eq_some_iff path place).mp hpage
    have hyes : batch.disk.isPage path = true := by
      rw [← Bool.not_eq_false, ← batch.disk.pageAt?_eq_none_iff path, hpage]
      exact Option.some_ne_none place
    simp only [hyes, if_true, job.layOut_eq hdisk hresolve hcontent, hcontent, Option.elim_some]
    rcases job.verdict (batch.disk.refusal? place) content with obstacle | outcome | outcome
    all_goals simp [Except.mapError, fail, note, Tally.add, Tally.ofArrivals, Arrival.heading,
      Arrival.event, Report.heading]

end Batch

end LeafLayout
