import LeafLayout.Proofs.Batch.Order
import LeafLayout.Proofs.Batch.Repetition

/-!
What a dry run foretells. A dry run writes nothing, so that it judges every match by its page as it
was at first, how often the page is reached. A batch that writes judges a page in the same way, but
the first visit settles it, and visits by other paths find nothing left to change. What the batch
names as changed is therefore what the dry run has named, each file once and by the first path to
it; the other paths to it count as unchanged.
-/

set_option autoImplicit false

namespace LeafLayout

open Text

/-- Where no item is related to an earlier one, none is erased. -/
theorem eraseDupsBy_eq_self {Item : Type} {related : Item → Item → Bool} {items : List Item}
    (h : items.Pairwise fun earlier later ↦ related later earlier = false) :
    items.eraseDupsBy related = items := by
  induction items with
  | nil => rfl
  | cons first more ih =>
    rw [List.pairwise_cons] at h
    rw [List.eraseDupsBy_cons, List.filter_eq_self.mpr, ih h.2]
    exact fun later hlater ↦ decide_eq_true (h.1 later hlater)

theorem eraseDupsBy_sublist {Item : Type} (related : Item → Item → Bool) (items : List Item) :
    (items.eraseDupsBy related).Sublist items := by
  induction hlength : items.length using Nat.strong_induction_on generalizing items with
  | _ length ih =>
    subst hlength
    rcases items with _ | ⟨first, more⟩
    · exact .slnil
    · have hshorter := Nat.lt_succ_of_le
        (more.length_filter_le fun later ↦ related later first = false)
      rw [List.eraseDupsBy_cons]
      exact ((ih _ hshorter _ rfl).trans List.filter_sublist).cons_cons first

theorem Tally.changed_ofArrivals_cons (arrival : Arrival) (more : List Arrival) (refused : Nat) :
    (ofArrivals (arrival :: more) refused).changed =
      if arrival.heading = .changed then arrival.path :: (ofArrivals more refused).changed
      else (ofArrivals more refused).changed := by
  simp only [ofArrivals, List.filter_cons, decide_eq_true_eq]
  split_ifs <;> rfl

/-- A path is due if it designates a page that may be read and that a layout would change as the
page is now. -/
def Style.IsDue (style : Style) (disk : Disk) (path : Path) : Prop :=
  ∃ place, disk.pageAt? path = some place ∧ ¬ style.LeavesAlone disk place

theorem Glob.Walker.forall_visitCount_le_one_iff (walker : Glob.Walker) (disk : Disk)
    (patterns : List (List Char)) :
    (∀ place, walker.visitCount disk patterns place ≤ 1) ↔
      ((patterns.flatMap (walker.pathsOn disk)).filterMap disk.pageAt?).Nodup := by
  rw [List.nodup_iff_count_le_one]
  refine forall_congr' fun place ↦ ?_
  have hcount : ((patterns.flatMap (walker.pathsOn disk)).filterMap disk.pageAt?).count place =
      walker.visitCount disk patterns place := by
    rw [List.count_filterMap]
    exact List.countP_congr fun path _ ↦ by simp
  rw [hcount]

namespace Job

/-- A visit that does not fail to write tells of a change just when its path is due. -/
theorem heading_report_eq_changed_iff {job : Job} {disk : Disk} {path : Path}
    (hwritten : (job.report disk path).failedAt? ≠ some .write) :
    (job.report disk path).heading = .changed ↔ job.style.IsDue disk path := by
  constructor
  · intro hchanged
    by_contra hdue
    refine (report_of_leavesAlone fun place hpage ↦ ?_).1 hchanged
    by_contra hnew
    exact hdue ⟨place, hpage, hnew⟩
  · intro hdue
    obtain ⟨place, hpage, content, hcontent, hread, hnew⟩ :
        ∃ place, disk.pageAt? path = some place ∧ ∃ content,
          disk.contentAt? place = some content ∧ disk.refusal? place .read = none ∧
            ¬ job.style.IsSettled content := by
      simpa [Style.IsDue, Style.LeavesAlone] using hdue
    rw [job.report_of_contentAt? hpage hcontent] at hwritten ⊢
    rw [Ne, Report.failedAt?_page] at hwritten
    rw [Report.heading_page_eq_changed_iff]
    rcases h : job.verdict (disk.refusal? place) content with ⟨_ | _, fault⟩ | outcome | outcome
    · rw [verdict_eq_read_error_iff, hread] at h
      cases h
    · exact absurd ⟨fault, h⟩ hwritten
    · rfl
    · exact absurd (verdict_eq_unchanged_iff.mp h).2 hnew

/-! ### A dry run -/

section DryRun

variable {rehearsal : Job} (hdry : rehearsal.dryRun = true)

include hdry

theorem settle_of_dryRun (disk : Disk) (path : Path) : rehearsal.settle disk path = disk := by
  unfold settle
  cases disk.pageAt? path with
  | none => rfl
  | some place => rw [Option.elim_some, revised_of_dryRun hdry, Disk.onlyAt_id, Disk.amend_id]

theorem foldl_settle_of_dryRun (disk : Disk) (paths : List Path) :
    paths.foldl rehearsal.settle disk = disk := by
  induction paths with
  | nil => rfl
  | cons path more ih => rw [List.foldl_cons, settle_of_dryRun hdry, ih]

theorem arrivals_of_dryRun (disk : Disk) (paths : List Path) :
    rehearsal.arrivals disk paths = paths.map fun path ↦ ⟨path, rehearsal.report disk path⟩ := by
  induction paths with
  | nil => rfl
  | cons path more ih => rw [arrivals, settle_of_dryRun hdry, ih, List.map_cons]

theorem changed_of_dryRun (disk : Disk) (paths : List Path) (refused : Nat) :
    (Tally.ofArrivals (rehearsal.arrivals disk paths) refused).changed =
      paths.filter fun path ↦ (rehearsal.report disk path).heading = .changed := by
  rw [arrivals_of_dryRun hdry, Tally.ofArrivals, List.filter_map, List.map_map]
  exact List.map_id' _

/-- What is not written cannot fail to be. -/
theorem failedAt?_report_of_dryRun (disk : Disk) (path : Path) :
    (rehearsal.report disk path).failedAt? ≠ some .write := by
  rcases rehearsal.report_cases disk path with ⟨-, hreport⟩ | ⟨place, content, -, -, hreport⟩
  · simp [hreport, Report.failedAt?]
  · rw [hreport, Ne, Report.failedAt?_page]
    rintro ⟨fault, hverdict⟩
    obtain ⟨-, -, hwrite, -⟩ := verdict_eq_write_error_iff.mp hverdict
    exact absurd (hwrite.symm.trans hdry) Bool.false_ne_true

theorem forall_failedAt?_of_dryRun (disk : Disk) (paths : List Path) :
    ∀ arrival ∈ rehearsal.arrivals disk paths, arrival.report.failedAt? ≠ some .write := by
  rw [arrivals_of_dryRun hdry, List.forall_mem_map]
  exact fun path _ ↦ failedAt?_report_of_dryRun hdry disk path

/-- Where no page is reached twice, no two paths that a dry run names designate one page. -/
theorem pairwise_changed_of_dryRun {disk : Disk} {paths : List Path}
    (honce : (paths.filterMap disk.pageAt?).Nodup) (refused : Nat) :
    (Tally.ofArrivals (rehearsal.arrivals disk paths) refused).changed.Pairwise
      fun earlier later ↦ decide (disk.pageAt? later = disk.pageAt? earlier) = false := by
  rw [changed_of_dryRun hdry]
  refine ((List.pairwise_filterMap.mp honce).sublist List.filter_sublist).imp_of_mem ?_
  intro earlier later hearlier _ hdistinct
  have hdue := of_decide_eq_true (List.mem_filter.mp hearlier).2
  obtain ⟨place, hpage, -⟩ := (heading_report_eq_changed_iff
    (failedAt?_report_of_dryRun hdry disk earlier)).mp hdue
  rw [decide_eq_false_iff_not]
  exact fun hsame ↦ hdistinct place hpage place (hsame.trans hpage) rfl

end DryRun

/-! ### A batch beside its dry run -/

section Beside

variable {job rehearsal : Job} (hstyle : rehearsal.style = job.style)
  (hdry : rehearsal.dryRun = true) (hwrite : job.dryRun = false)
  (hsettles : ∀ document, job.style.arrange (job.style.arrange document) =
    job.style.arrange document)

include hwrite hsettles in
/-- After a visit that does not fail to write no path to its page is due any more, and the others
are as before. -/
theorem isDue_settle_iff {disk : Disk} {path : Path} {place : Place}
    (hpage : disk.pageAt? path = some place)
    (hwritten : (job.report disk path).failedAt? ≠ some .write) (other : Path) :
    job.style.IsDue (job.settle disk path) other ↔
      disk.pageAt? other ≠ disk.pageAt? path ∧ job.style.IsDue disk other := by
  unfold Style.IsDue
  rw [pageAt?_settle, hpage]
  by_cases hsame : disk.pageAt? other = some place
  · have hsettled := leavesAlone_of_visit hwrite hsettles hpage hwritten
    simp [hsame, hsettled]
  · have hkept (elsewhere : Place) (hother : disk.pageAt? other = some elsewhere) :
        (job.settle disk path).contentAt? elsewhere = disk.contentAt? elsewhere := by
      have hne : disk.pageAt? path ≠ some elsewhere := fun heq ↦ hsame <| by
        rw [hother, ← heq, hpage]
      rw [contentAt?_settle, if_neg hne, Option.map_id, id]
    simp only [ne_eq, hsame, not_false_eq_true, true_and]
    refine exists_congr fun elsewhere ↦ and_congr_right fun hother ↦ ?_
    rw [Style.LeavesAlone, Style.LeavesAlone, hkept elsewhere hother, refusal?_settle]

include hstyle hdry hwrite hsettles

/-- Induction on the paths: once a visit has changed a page, the dry run would still change it at
each further path, and the batch at none. -/
theorem changed_arrivals {disk : Disk} (hdisk : disk.Unambiguous) {paths : List Path}
    (hwritten : ∀ arrival ∈ job.arrivals disk paths, arrival.report.failedAt? ≠ some .write)
    (refused : Nat) :
    (Tally.ofArrivals (job.arrivals disk paths) refused).changed =
      (Tally.ofArrivals (rehearsal.arrivals disk paths) refused).changed.eraseDupsBy
        fun later earlier ↦ disk.pageAt? later = disk.pageAt? earlier := by
  rw [changed_of_dryRun hdry]
  induction paths generalizing disk with
  | nil => rfl
  | cons path more ih =>
    have hdue (disk : Disk) (path : Path) :
        (rehearsal.report disk path).heading = .changed ↔ job.style.IsDue disk path := by
      rw [heading_report_eq_changed_iff (failedAt?_report_of_dryRun hdry disk path), hstyle]
    rw [arrivals, List.forall_mem_cons] at hwritten
    have harrival : (job.report disk path).failedAt? ≠ some .write := hwritten.1
    have hheading : (⟨path, job.report disk path⟩ : Arrival).heading = .changed ↔
        (rehearsal.report disk path).heading = .changed :=
      (heading_report_eq_changed_iff harrival).trans (hdue disk path).symm
    have hmore := ih ((Disk.unambiguous_congr (job.outline_settle disk path)).mpr hdisk) hwritten.2
    rw [pageAt?_settle] at hmore
    rw [arrivals, Tally.changed_ofArrivals_cons, hmore, List.filter_cons]
    by_cases hchanges : (rehearsal.report disk path).heading = .changed
    · obtain ⟨place, hpage, -⟩ := (hdue disk path).mp hchanges
      rw [if_pos (decide_eq_true hchanges), if_pos (hheading.mpr hchanges), List.eraseDupsBy_cons,
        List.filter_filter]
      congr 2
      refine List.filter_congr fun other _ ↦ ?_
      have hother := isDue_settle_iff hwrite hsettles hpage harrival other
      rw [← hdue, ← hdue] at hother
      simp [hother]
    · have hsettled : job.settle disk path = disk := by
        refine settle_eq_self hdisk fun place hpage ↦ ?_
        by_contra hnew
        exact hchanges ((hdue disk path).mpr ⟨place, hpage, hnew⟩)
      rw [if_neg (mt of_decide_eq_true hchanges), if_neg (mt hheading.mp hchanges), hsettled]

/-- What a batch does as its dry run has told, whatever finds the matches. -/
theorem carryOutBy_of_rehearsal {walker : Glob.Walker} (hwalker : walker.KeepsToOutline)
    {disk : Disk} (hdisk : disk.Unambiguous) (patterns : List (List Char)) :
    let trial := rehearsal.carryOutBy walker disk patterns
    let batch := job.carryOutBy walker disk patterns
    (∀ path fault, Event.failed (.write path fault) ∉ batch.events) →
    batch.tally =
      { changed := trial.tally.changed.eraseDupsBy
          fun later earlier ↦ disk.pageAt? later = disk.pageAt? earlier
        unchanged := trial.tally.unchanged +
          (trial.tally.changed.length - batch.tally.changed.length)
        skipped := trial.tally.skipped
        failed := trial.tally.failed } ∧
    ((∀ place, walker.visitCount disk patterns place ≤ 1) → batch.tally = trial.tally) := by
  intro trial batch hwritten
  let paths := patterns.flatMap (walker.pathsOn disk)
  let refused := patterns.countP walker.isMalformed
  have harrivals := (job.forall_failed_write_notMem_iff hwalker hdisk patterns).mp hwritten
  have htrial : trial.tally = Tally.ofArrivals (rehearsal.arrivals disk paths) refused :=
    rehearsal.carryOutBy_tally hwalker hdisk patterns
  have hbatch : batch.tally = Tally.ofArrivals (job.arrivals disk paths) refused :=
    job.carryOutBy_tally hwalker hdisk patterns
  have hchanged := changed_arrivals hstyle hdry hwrite hsettles hdisk harrivals refused
  have htally := job.ofArrivals_eq_of_outline_eq rfl harrivals
    (forall_failedAt?_of_dryRun hdry disk paths) refused <| by
      rw [hchanged]
      exact (eraseDupsBy_sublist _ _).length_le
  rw [← hbatch, ← htrial] at htally hchanged
  refine ⟨?_, fun honce ↦ ?_⟩
  · rw [← hchanged]
    exact htally
  · rw [Glob.Walker.forall_visitCount_le_one_iff] at honce
    have hsame : batch.tally.changed = trial.tally.changed := by
      rw [hchanged, htrial]
      exact eraseDupsBy_eq_self (pairwise_changed_of_dryRun hdry honce refused)
    rw [htally, hsame, Nat.sub_self, Nat.add_zero]

end Beside

end Job

/-- A dry run leaves the disk as it is. It foretells the batch with the same style, if the indent is
blank and texts are squeezed or stripped and if no writing fails in the batch: the batch changes
what the dry run names, less each path to a file that an earlier one of them designates already, and
finds the files of those paths unchanged. Nothing else of the tally differs, and nothing at all if
no file is reached twice. -/
theorem Job.dryRun_foretells (style : Style) (rehearsed limit : Option Nat) (disk : Disk)
    (hdisk : disk.Unambiguous) (patterns : List (List Char)) :
    let rehearsal := Job.carryOut { style, dryRun := true, limit := rehearsed } disk patterns
    let batch := Job.carryOut { style, limit } disk patterns
    rehearsal.disk = disk ∧
    ((∀ c ∈ style.indent, isBlank c = true) → (style.squeeze = true ∨ style.strip = true) →
      (∀ path fault, Event.failed (.write path fault) ∉ batch.events) →
      batch.tally =
        { changed := rehearsal.tally.changed.eraseDupsBy
            fun later earlier ↦ disk.pageAt? later = disk.pageAt? earlier
          unchanged := rehearsal.tally.unchanged +
            (rehearsal.tally.changed.length - batch.tally.changed.length)
          skipped := rehearsal.tally.skipped
          failed := rehearsal.tally.failed } ∧
      ((∀ place, Glob.walker.visitCount disk patterns place ≤ 1) →
        batch.tally = rehearsal.tally)) := by
  intro rehearsal batch
  let trial : Job := { style, dryRun := true, limit := rehearsed }
  let job : Job := { style, limit }
  refine ⟨?_, fun hindent hflags hwritten ↦ ?_⟩
  · exact (trial.carryOutBy_disk Glob.walker_keepsToOutline hdisk patterns).trans
      (Job.foldl_settle_of_dryRun rfl disk _)
  · have hstyle : trial.style = job.style := rfl
    have hsettles (document : List Char) :
        style.arrange (style.arrange document) = style.arrange document :=
      Style.arrange_arrange_of_allBlank hindent hflags document
    exact Job.carryOutBy_of_rehearsal hstyle rfl rfl hsettles Glob.walker_keepsToOutline hdisk
      patterns hwritten

/-- One page is named twice by the dry run and changed once; with each page named once the two runs
tell the same. -/
theorem Job.dryRun_foretells_desk :
    let twice := ["a.html".toList, "[".toList, "b.HTML".toList, "c.htm".toList, "d.html".toList,
      "/a.html".toList]
    let rehearsal := Job.carryOut { dryRun := true } Disk.desk twice
    let batch := Job.carryOut {} Disk.desk twice
    let once := ["b.HTML".toList, "d.html".toList, "/a.html".toList]
    Disk.desk.Unambiguous ∧ (∀ c ∈ ({} : Style).indent, isBlank c = true) ∧
      (∀ path fault, Event.failed (.write path fault) ∉ batch.events) ∧
      rehearsal.disk = Disk.desk ∧
      rehearsal.tally.changed = ["a.html".toList, "b.HTML".toList, "/a.html".toList] ∧
      batch.tally = { changed := ["a.html".toList, "b.HTML".toList], unchanged := 2, skipped := 1
                      failed := 1 } ∧
      (∀ place, Glob.walker.visitCount Disk.desk once place ≤ 1) ∧
      (Job.carryOut {} Disk.desk once).tally =
        (Job.carryOut { dryRun := true } Disk.desk once).tally := by
  intro twice rehearsal batch once
  have hindent : AllBlank ({} : Style).indent := by decide
  have hdisk : Disk.desk.Unambiguous :=
    ((((Disk.unambiguous_empty []).putFile _ _).putFile _ _).putFile _ _).putFile _ _
  have hwritten : ∀ path fault, Event.failed (.write path fault) ∉ batch.events := by
    refine (Job.forall_failed_write_notMem_iff _ Glob.walker_keepsToOutline hdisk twice).mpr ?_
    decide +kernel
  have hwritten' : ∀ path fault, Event.failed (.write path fault) ∉
      (Job.carryOut {} Disk.desk once).events := by
    refine (Job.forall_failed_write_notMem_iff _ Glob.walker_keepsToOutline hdisk once).mpr ?_
    decide +kernel
  have hrehearsal : rehearsal.tally =
      { changed := ["a.html".toList, "b.HTML".toList, "/a.html".toList], unchanged := 1
        skipped := 1, failed := 1 } := by
    refine (Job.carryOutBy_tally _ Glob.walker_keepsToOutline hdisk twice).trans ?_
    decide +kernel
  have honce : ∀ place, Glob.walker.visitCount Disk.desk once place ≤ 1 := by
    rw [Glob.Walker.forall_visitCount_le_one_iff]
    decide +kernel
  obtain ⟨hsame, hforetold⟩ := Job.dryRun_foretells {} none none Disk.desk hdisk twice
  obtain ⟨htally, -⟩ := hforetold hindent (Or.inl rfl) hwritten
  obtain ⟨-, hequal⟩ := (Job.dryRun_foretells {} none none Disk.desk hdisk once).2 hindent
    (Or.inl rfl) hwritten'
  have hchanged : batch.tally.changed = ["a.html".toList, "b.HTML".toList] := by
    refine (congrArg Tally.changed htally).trans ?_
    rw [hrehearsal]
    decide +kernel
  refine ⟨hdisk, hindent, hwritten, hsame, congrArg Tally.changed hrehearsal, ?_, honce,
    hequal honce⟩
  rw [hchanged, hrehearsal] at htally
  exact htally.trans (by decide +kernel)

end LeafLayout
