import LeafLayout.Proofs.Batch.Course
import LeafLayout.Proofs.Glob.Outline
import LeafLayout.Proofs.Layout.Idempotence
import LeafLayout.Proofs.Text.Utf8

/-!
A batch carried out again. With a blank indent, and texts squeezed or stripped, a page that may be
read is settled once a visit to it has not failed to write: it was so before and kept its octets,
however ill-formed, or it was written whole and reads back as the text it was laid out to. Settled
pages are left alone by all later visits, as are pages that may not be read, so that a second batch
finds nothing to change.
-/

set_option autoImplicit false

namespace LeafLayout

open Text

/-- If there is a file at a place that may be read, it is settled. -/
def Style.LeavesAlone (style : Style) (disk : Disk) (place : Place) : Prop :=
  ∀ content, disk.contentAt? place = some content → disk.refusal? place .read = none →
    style.IsSettled content

namespace Job

variable {job : Job}

/-! ### Settling files -/

theorem leavesAlone_settle {disk : Disk} {place : Place} (h : job.style.LeavesAlone disk place)
    (path : Path) : job.style.LeavesAlone (job.settle disk path) place := by
  intro content hcontent hread
  rw [refusal?_settle] at hread
  rw [contentAt?_settle, Option.map_eq_some_iff] at hcontent
  obtain ⟨before, hbefore, rfl⟩ := hcontent
  have hsettled := h before hbefore hread
  split_ifs
  · rwa [revised_of_isSettled hsettled]
  · exact hsettled

theorem leavesAlone_foldl_settle {disk : Disk} {place : Place}
    (h : job.style.LeavesAlone disk place) (paths : List Path) :
    job.style.LeavesAlone (paths.foldl job.settle disk) place := by
  induction paths generalizing disk with
  | nil => exact h
  | cons path more ih => exact ih (leavesAlone_settle h path)

section

variable (hwrite : job.dryRun = false)
  (hsettles : ∀ document, job.style.arrange (job.style.arrange document) =
    job.style.arrange document)

include hwrite hsettles

/-- What is written whole reads back as the text that was written. -/
theorem isSettled_revised {refusal? : Access → Option Fault} {content : List UInt8}
    (hread : refusal? .read = none)
    (hwritten : ∀ fault, job.verdict refusal? content ≠ .error ⟨.write, fault⟩) :
    job.style.IsSettled (job.revised refusal? content) := by
  rcases h : job.verdict refusal? content with ⟨_ | _, fault⟩ | outcome | outcome
  · rw [verdict_eq_read_error_iff, hread] at h
    cases h
  · exact absurd h (hwritten fault)
  · rw [Style.IsSettled, revised_of_verdict_eq_changed hwrite h, Utf8.decode_encode, hsettles]
  · have hsettled := (verdict_eq_unchanged_iff.mp h).2
    rwa [revised_of_isSettled hsettled]

/-- A visit that does not fail to write settles the page. -/
theorem leavesAlone_of_visit {disk : Disk} {path : Path} {place : Place}
    (hpage : disk.pageAt? path = some place)
    (hwritten : (job.report disk path).failedAt? ≠ some .write) :
    job.style.LeavesAlone (job.settle disk path) place := by
  intro content hcontent hread
  rw [refusal?_settle] at hread
  rw [contentAt?_settle, if_pos hpage, Option.map_eq_some_iff] at hcontent
  obtain ⟨before, hbefore, rfl⟩ := hcontent
  rw [job.report_of_contentAt? hpage hbefore, Ne, Report.failedAt?_page] at hwritten
  exact isSettled_revised hwrite hsettles hread fun fault hverdict ↦ hwritten ⟨fault, hverdict⟩

/-- Induction on the paths: the first visit to a page settles it, and it stays so. -/
theorem leavesAlone_of_arrivals {disk : Disk} {paths : List Path}
    (hwritten : ∀ arrival ∈ job.arrivals disk paths, arrival.report.failedAt? ≠ some .write) :
    ∀ path ∈ paths, ∀ place, disk.pageAt? path = some place →
      job.style.LeavesAlone (paths.foldl job.settle disk) place := by
  induction paths generalizing disk with
  | nil => simp
  | cons first more ih =>
    rw [arrivals, List.forall_mem_cons] at hwritten
    intro path hpath place hpage
    rcases List.mem_cons.mp hpath with rfl | hpath
    · have hsettled := leavesAlone_of_visit hwrite hsettles hpage hwritten.1
      exact leavesAlone_foldl_settle hsettled more
    · rw [← job.pageAt?_settle disk first] at hpage
      exact ih hwritten.2 path hpath place hpage

end

/-! ### Visits to settled files -/

theorem settle_eq_self {disk : Disk} (hdisk : disk.Unambiguous) {path : Path}
    (halone : ∀ place, disk.pageAt? path = some place → job.style.LeavesAlone disk place) :
    job.settle disk path = disk := by
  unfold settle
  cases hpage : disk.pageAt? path with
  | none => rfl
  | some place =>
    obtain ⟨-, -, content, hcontent⟩ := (disk.pageAt?_eq_some_iff path place).mp hpage
    refine hdisk.amend_onlyAt_eq_self hcontent ?_
    cases hread : disk.refusal? place .read with
    | some fault => rw [job.revised_of_refused hread, id]
    | none => exact revised_of_isSettled (halone place hpage content hcontent hread) _

/-- A page that is left alone may fail to be read, but neither changes nor fails to be written. -/
theorem report_of_leavesAlone {disk : Disk} {path : Path}
    (halone : ∀ place, disk.pageAt? path = some place → job.style.LeavesAlone disk place) :
    (job.report disk path).heading ≠ .changed ∧
      (job.report disk path).failedAt? ≠ some .write := by
  rcases job.report_cases disk path with ⟨-, hreport⟩ | ⟨place, content, hpage, hcontent, hreport⟩
  · simp [hreport, Report.heading, Report.failedAt?]
  · rw [hreport]
    constructor
    · rw [Ne, Report.heading_page_eq_changed_iff]
      intro hverdict
      obtain ⟨hread, hnew, -⟩ := verdict_eq_changed_iff.mp hverdict
      exact hnew (halone place hpage content hcontent hread)
    · rw [Ne, Report.failedAt?_page]
      rintro ⟨fault, hverdict⟩
      obtain ⟨hread, hnew, -⟩ := verdict_eq_write_error_iff.mp hverdict
      exact hnew (halone place hpage content hcontent hread)

/-- A course over settled pages changes nothing and fails to write nowhere. -/
theorem arrivals_of_leavesAlone (job : Job) {disk : Disk} (hdisk : disk.Unambiguous)
    {paths : List Path}
    (halone : ∀ path ∈ paths, ∀ place, disk.pageAt? path = some place →
      job.style.LeavesAlone disk place) :
    paths.foldl job.settle disk = disk ∧ ∀ arrival ∈ job.arrivals disk paths,
      arrival.heading ≠ .changed ∧ arrival.report.failedAt? ≠ some .write := by
  induction paths with
  | nil => simp [arrivals]
  | cons path more ih =>
    rw [List.forall_mem_cons] at halone
    obtain ⟨hsame, hquiet⟩ := ih halone.2
    rw [List.foldl_cons, arrivals, settle_eq_self hdisk halone.1, List.forall_mem_cons]
    exact ⟨hsame, report_of_leavesAlone halone.1, hquiet⟩

theorem changed_ofArrivals_eq_nil {arrivals : List Arrival}
    (hquiet : ∀ arrival ∈ arrivals, arrival.heading ≠ .changed) (refused : Nat) :
    (Tally.ofArrivals arrivals refused).changed = [] := by
  rw [Tally.ofArrivals, List.map_eq_nil_iff, List.filter_eq_nil_iff]
  exact fun arrival harrival hchanged ↦ hquiet arrival harrival (of_decide_eq_true hchanged)

/-- Once a batch whose style settles documents was carried out without a write that failed, any
batch with that style and the same patterns finds all pages settled. -/
theorem carryOutBy_again (later : Job) (hstyle : later.style = job.style)
    (hwrite : job.dryRun = false)
    (hsettles : ∀ document, job.style.arrange (job.style.arrange document) =
      job.style.arrange document)
    {walker : Glob.Walker} (hwalker : walker.KeepsToOutline) {disk : Disk}
    (hdisk : disk.Unambiguous) (patterns : List (List Char))
    (hwritten : ∀ path fault, Event.failed (.write path fault) ∉
      (job.carryOutBy walker disk patterns).events) :
    let first := job.carryOutBy walker disk patterns
    let second := later.carryOutBy walker first.disk patterns
    second.disk = first.disk ∧ second.tally =
      { changed := []
        unchanged := first.tally.unchanged + first.tally.changed.length
        skipped := first.tally.skipped
        failed := first.tally.failed } := by
  intro first second
  let paths := patterns.flatMap (walker.pathsOn disk)
  let refused := patterns.countP walker.isMalformed
  have houtline : first.disk.outline = disk.outline := job.outline_carryOutBy hwalker hdisk patterns
  have hunambiguous := (Disk.unambiguous_congr houtline).mpr hdisk
  have hpaths : patterns.flatMap (walker.pathsOn first.disk) = paths := by
    rw [hwalker.pathsOn_congr houtline]
  have harrivals := (job.forall_failed_write_notMem_iff hwalker hdisk patterns).mp hwritten
  have halone : ∀ path ∈ paths, ∀ place, first.disk.pageAt? path = some place →
      later.style.LeavesAlone first.disk place := by
    have hfirst : first.disk = paths.foldl job.settle disk :=
      job.carryOutBy_disk hwalker hdisk patterns
    rw [Disk.pageAt?_congr houtline, hstyle, hfirst]
    exact leavesAlone_of_arrivals hwrite hsettles harrivals
  obtain ⟨hsame, hquiet⟩ := later.arrivals_of_leavesAlone hunambiguous halone
  constructor
  · have hsecond := later.carryOutBy_disk hwalker hunambiguous patterns
    rw [hpaths, hsame] at hsecond
    exact hsecond
  · have hfirst : first.tally = Tally.ofArrivals (job.arrivals disk paths) refused :=
      job.carryOutBy_tally hwalker hdisk patterns
    have hsecond : second.tally = Tally.ofArrivals (later.arrivals first.disk paths) refused := by
      rw [← hpaths]
      exact later.carryOutBy_tally hwalker hunambiguous patterns
    have hnone := changed_ofArrivals_eq_nil (fun arrival harrival ↦ (hquiet arrival harrival).1)
      refused
    have htally := later.ofArrivals_eq_of_outline_eq houtline
      (fun arrival harrival ↦ (hquiet arrival harrival).2) harrivals refused (by simp [hnone])
    rw [hnone] at htally
    rw [hfirst, hsecond]
    exact htally

end Job

/-- Once a batch with a blank indent, and with squeezing or stripping, was carried out without a
write that failed, the same patterns find all pages settled: whatever the limit is now, the second
batch leaves the disk as it is and counts as unchanged what the first one changed. -/
theorem Job.carryOut_again (style : Style) (limit again : Option Nat) (disk : Disk)
    (patterns : List (List Char)) (hindent : ∀ c ∈ style.indent, isBlank c = true)
    (hflags : style.squeeze = true ∨ style.strip = true) (hdisk : disk.Unambiguous)
    (hwritten : ∀ path fault, Event.failed (.write path fault) ∉
      (Job.carryOut { style, limit } disk patterns).events) :
    let first := Job.carryOut { style, limit } disk patterns
    let second := Job.carryOut { style, limit := again } first.disk patterns
    second.disk = first.disk ∧ second.tally =
      { changed := []
        unchanged := first.tally.unchanged + first.tally.changed.length
        skipped := first.tally.skipped
        failed := first.tally.failed } :=
  let job : Job := { style, limit }
  job.carryOutBy_again { style, limit := again } rfl rfl
    (Style.arrange_arrange_of_allBlank hindent hflags) Glob.walker_keepsToOutline hdisk patterns
    hwritten

/-- Three pages, two of them with an ill-formed octet, and a file that is no page. -/
def Disk.desk : Disk :=
  ((((Disk.empty []).putFile ["a.html".toList] (Utf8.encode "<p>x</p>".toList)).putFile
    ["b.HTML".toList] (0xff :: Utf8.encode "<i>y</i>".toList)).putFile
    ["c.htm".toList] [0xff]).putFile ["d.html".toList] [0xff]

/-- One of the two pages that change is laid out a second time in the same batch. -/
theorem Job.carryOut_desk_again :
    let patterns := ["a.html".toList, "[".toList, "b.HTML".toList, "c.htm".toList,
      "d.html".toList, "./a.html".toList]
    let first := Job.carryOut { limit := some 40 } Disk.desk patterns
    let second := Job.carryOut { limit := some 0 } first.disk patterns
    (∀ c ∈ ({} : Style).indent, isBlank c = true) ∧ Disk.desk.Unambiguous ∧
      (∀ path fault, Event.failed (.write path fault) ∉ first.events) ∧
      second.disk = first.disk ∧
      second.tally = { changed := [], unchanged := 4, skipped := 1, failed := 1 } := by
  intro patterns first second
  have hindent : AllBlank ({} : Style).indent := by decide
  have hdisk : Disk.desk.Unambiguous :=
    ((((Disk.unambiguous_empty []).putFile _ _).putFile _ _).putFile _ _).putFile _ _
  have hwritten : ∀ path fault, Event.failed (.write path fault) ∉ first.events := by
    refine (Job.forall_failed_write_notMem_iff _ Glob.walker_keepsToOutline hdisk patterns).mpr ?_
    decide +kernel
  have htally : first.tally =
      { changed := ["a.html".toList, "b.HTML".toList], unchanged := 2, skipped := 1
        failed := 1 } := by
    refine (Job.carryOutBy_tally _ Glob.walker_keepsToOutline hdisk patterns).trans ?_
    decide +kernel
  obtain ⟨hsame, hagain⟩ := Job.carryOut_again {} (some 40) (some 0) Disk.desk patterns hindent
    (Or.inl rfl) hdisk hwritten
  refine ⟨hindent, hdisk, hwritten, hsame, hagain.trans ?_⟩
  rw [htally]
  rfl

end LeafLayout
