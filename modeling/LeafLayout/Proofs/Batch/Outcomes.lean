import LeafLayout.Proofs.Batch.Preservation
import LeafLayout.Proofs.Layout.Changes

/-!
The outcomes of laying out one file, and what is on the disk after each. A file that cannot be read
is left alone, and so is one that may not be written. Otherwise its text decides, and what is
compared is text while what is kept or written is octets: a file whose text does not change keeps
its octets as they are, ill-formed ones included, and one whose text does change gets the octets of
the new text, or as many of them as the limit allows, which may end inside a character.
-/

set_option autoImplicit false

namespace LeafLayout

open Text

namespace Job

variable {job : Job} {disk : Disk} {path : Path} {content : List UInt8}

/-- Of a text that does not fit the part that does is written. -/
theorem revised_of_verdict_eq_write_error {refusal? : Access → Option Fault}
    (hgranted : refusal? .write = none) {fault : Fault}
    (h : job.verdict refusal? content = .error ⟨.write, fault⟩) :
    ∃ n, job.limit = some n ∧ job.revised refusal? content =
      (Utf8.encode (job.style.arrange (Utf8.decode content))).take n := by
  obtain ⟨hread, hnew, hwrite, hfault⟩ := verdict_eq_write_error_iff.mp h
  rw [writeFault?_eq_some_iff, hgranted] at hfault
  obtain ⟨-, -, n, hlimit, -⟩ := hfault.resolve_left (Option.some_ne_none fault).symm
  refine ⟨n, hlimit, ?_⟩
  have hwritten : job.style.rewritten job.limit content = _ := if_neg hnew
  rw [revised, if_pos ⟨hread, hgranted, hwrite⟩, hwritten, hlimit, Option.elim_some]

/-! ### By the disk and the path -/

/-- No change is told only of a text that is laid out to itself, never of one that was written. -/
theorem layOut_snd_eq_unchanged_iff (job : Job) (disk : Disk) (path : Path) :
    (job.layOut disk path).2 = .ok .unchanged ↔
      ∃ content, disk.read path = .ok content ∧ job.style.IsSettled content := by
  cases hread : disk.read path with
  | error fault => simp [job.layOut_of_read_eq_error hread]
  | ok content =>
    simp only [layOut, hread, Style.IsSettled, Except.ok.injEq, exists_eq_left']
    split_ifs with hsettled hdry
    · exact iff_of_true rfl hsettled
    · exact iff_of_false (by simp) hsettled
    · refine iff_of_false ?_ hsettled
      split <;> simp

/-- A failure to read is told just where reading fails. -/
theorem layOut_snd_eq_read_error_iff (job : Job) (disk : Disk) (path : Path) :
    (∃ fault, (job.layOut disk path).2 = .error (.read path fault)) ↔
      ∃ fault, disk.read path = .error fault := by
  cases hread : disk.read path with
  | error found => simp [job.layOut_of_read_eq_error hread]
  | ok content =>
    refine iff_of_false ?_ (by simp)
    rintro ⟨fault, hfailed⟩
    simp only [layOut, hread] at hfailed
    split_ifs at hfailed
    split at hfailed
    · cases hfailed
    · cases hfailed

/-- Only at the place that the path leads to anything may change. -/
theorem entryAt?_layOut (job : Job) (hdisk : disk.Unambiguous) {place : Place}
    (hplace : disk.resolve path ≠ .ok place) :
    (job.layOut disk path).1.entryAt? place = disk.entryAt? place := by
  cases hread : disk.read path with
  | error fault => rw [job.layOut_of_read_eq_error hread]
  | ok content =>
    obtain ⟨there, hresolve, hcontent, -⟩ := Disk.read_eq_ok_iff.mp hread
    have hother : place ≠ there := fun hsame ↦ hplace (hsame ▸ hresolve)
    rw [layOut_eq job hdisk hresolve hcontent, disk.entryAt?_amend_onlyAt hother]

/-! ### Main results -/

/-- With an indent that begins no tag, a document is laid out to itself exactly if none of its
leaves has to be written anew, so that changes to several leaves never cancel out. And the layout of
a file tells of no change exactly if it could be read and no leaf of the text it was read as has to
be written anew. -/
theorem layOut_unchanged_iff_keepsLeaves (job : Job) (hindent : '<' ∉ job.style.indent) :
    (∀ document, job.style.arrange document = document ↔ job.style.KeepsLeaves document) ∧
    ∀ disk path, (job.layOut disk path).2 = .ok .unchanged ↔
      ∃ content, disk.read path = .ok content ∧
        job.style.KeepsLeaves (Utf8.decode content) := by
  refine ⟨Style.arrange_eq_self_iff hindent, fun disk path ↦ ?_⟩
  rw [layOut_snd_eq_unchanged_iff]
  refine exists_congr fun content ↦ and_congr_right fun _ ↦ ?_
  exact Style.arrange_eq_self_iff hindent (Utf8.decode content)

/-- In the first document one leaf would grow by as much as the other would shrink. In the file an
octet that is not well formed stands before a leaf that has its form already. -/
theorem layOut_unchanged_iff_keepsLeaves_settled :
    let job : Job := {}
    let disk := (Disk.empty []).putFile ["a.html".toList]
      (0xFF :: Utf8.encode "<p>\n  a\n</p>".toList)
    '<' ∉ job.style.indent ∧
      job.style.arrange "<p>\n   a\n</p><b>\n b\n</b>".toList ≠
        "<p>\n   a\n</p><b>\n b\n</b>".toList ∧
      (job.layOut disk "a.html".toList).2 = .ok .unchanged := by
  intro job disk
  have hindent : '<' ∉ job.style.indent := by decide
  obtain ⟨hdocument, hfile⟩ := layOut_unchanged_iff_keepsLeaves job hindent
  refine ⟨hindent, ?_, ?_⟩
  · rw [Ne, hdocument]
    decide +kernel
  · rw [hfile]
    refine ⟨0xFF :: Utf8.encode "<p>\n  a\n</p>".toList, ?_, ?_⟩
    · decide +kernel
    · decide +kernel

/-- The layout of a file fails to read just what is no file and what may not be read, and then as
reading fails, leaving all of the disk as it is. Of what is read it tells no change just if the text
is laid out to itself, a failed writing just if the new text was to be written and may not be or is
longer than the limit, and a change otherwise. Nothing changes at other places than the path's.
There the octets stay in a dry run, where no change is told and where writing is refused; a change
that was told is written whole, and after any other failed writing the octets up to the limit are
there. -/
theorem layOut_outcome_and_disk (job : Job) (disk : Disk) (hdisk : disk.Unambiguous)
    (path : Path) :
    let after := (job.layOut disk path).1
    let result := (job.layOut disk path).2
    ((∃ fault, result = .error (.read path fault)) ↔
      disk.isFile path = false ∨ (disk.refused? path .read).isSome = true) ∧
    (∀ fault, disk.read path = .error fault →
      result = .error (.read path fault) ∧ after = disk) ∧
    (∀ place, disk.resolve path ≠ .ok place → after.entryAt? place = disk.entryAt? place) ∧
    ∀ content, disk.read path = .ok content →
      let text := Utf8.decode content
      let arranged := job.style.arrange text
      let octets := Utf8.encode arranged
      let refusal? := disk.refused? path .write
      (result = .ok .unchanged ↔ arranged = text) ∧
      (∀ fault, result = .error (.write path fault) ↔ arranged ≠ text ∧ job.dryRun = false ∧
        (refusal? = some fault ∨ refusal? = none ∧ fault = .fileTooLarge ∧
          ∃ n, job.limit = some n ∧ n < octets.length)) ∧
      (result = .ok .changed ↔ arranged ≠ text ∧
        (job.dryRun = true ∨ refusal? = none ∧ ∀ n, job.limit = some n → octets.length ≤ n)) ∧
      (result = .ok .unchanged ∨ job.dryRun = true ∨ refusal?.isSome = true → after = disk) ∧
      (result = .ok .changed → job.dryRun = false → after.read path = .ok octets) ∧
      ∀ fault, result = .error (.write path fault) → refusal? = none →
        ∃ n, job.limit = some n ∧ after.read path = .ok (octets.take n) := by
  intro after result
  refine ⟨(job.layOut_snd_eq_read_error_iff disk path).trans (disk.read_eq_error_iff path),
    fun fault hread ↦ ?_, fun place ↦ job.entryAt?_layOut hdisk, fun content hread ↦ ?_⟩
  · rw [show result = _ from congrArg Prod.snd (job.layOut_of_read_eq_error hread)]
    exact ⟨rfl, congrArg Prod.fst (job.layOut_of_read_eq_error hread)⟩
  · intro text arranged octets refusal?
    obtain ⟨place, hresolve, hcontent, hgranted⟩ := Disk.read_eq_ok_iff.mp hread
    have hrefusal : refusal? = disk.refusal? place .write :=
      Disk.refused?_of_resolve hresolve .write
    have hok (outcome : Outcome) :
        result = .ok outcome ↔ job.verdict (disk.refusal? place) content = .ok outcome :=
      layOut_snd_eq_ok_iff hdisk hresolve hcontent outcome
    have herror (fault : Fault) : result = .error (.write path fault) ↔
        job.verdict (disk.refusal? place) content = .error ⟨.write, fault⟩ :=
      layOut_snd_eq_write_error_iff hdisk hresolve hcontent fault
    have hdisk_eq : after = disk.amend (Disk.onlyAt place (job.revised (disk.refusal? place))) :=
      congrArg Prod.fst (job.layOut_eq hdisk hresolve hcontent)
    have hafter : after.read path = .ok (job.revised (disk.refusal? place) content) := by
      rw [hdisk_eq, Disk.read_amend _ hresolve hcontent hgranted, Disk.onlyAt, if_pos rfl]
    refine ⟨?_, fun fault ↦ ?_, ?_, fun hquiet ↦ ?_, fun hchanged hwrite ↦ ?_,
      fun fault hfailed hnone ↦ ?_⟩
    · rw [hok, verdict_eq_unchanged_iff, and_iff_right hgranted]
      rfl
    · rw [herror, verdict_eq_write_error_iff, and_iff_right hgranted, writeFault?_eq_some_iff,
        hrefusal]
      rfl
    · rw [hok, verdict_eq_changed_iff, and_iff_right hgranted, writeFault?_eq_none_iff, hrefusal]
      rfl
    · rw [hdisk_eq]
      refine hdisk.amend_onlyAt_eq_self hcontent ?_
      rcases hquiet with hunchanged | hdry | hrefused
      · exact revised_of_isSettled (verdict_eq_unchanged_iff.mp ((hok _).mp hunchanged)).2 _
      · rw [revised_of_dryRun hdry, id]
      · obtain ⟨fault, hfault⟩ := Option.isSome_iff_exists.mp hrefused
        rw [job.revised_of_refused (hrefusal.symm.trans hfault), id]
    · rw [hafter, revised_of_verdict_eq_changed hwrite ((hok _).mp hchanged)]
    · obtain ⟨n, hlimit, hcut⟩ := revised_of_verdict_eq_write_error (hrefusal.symm.trans hnone)
        ((herror fault).mp hfailed)
      exact ⟨n, hlimit, hafter.trans (congrArg Except.ok hcut)⟩

/-- The limit falls inside the character that the ill-formed octets of the text are read as. -/
theorem layOut_outcome_and_disk_torn :
    let job : Job := { limit := some 10 }
    let disk := Disk.torn.putFile ["b.html".toList] [0xFF]
    let laidOut := job.layOut disk "a.html".toList
    disk.Unambiguous ∧ laidOut.2 = .error (.write "a.html".toList .fileTooLarge) ∧
      laidOut.1.read "a.html".toList =
        .ok ([0xEF, 0xBF, 0xBD] ++ Utf8.encode "<p>\n  ".toList ++ [0xEF]) ∧
      laidOut.1.entryAt? ["b.html".toList] = some (.file [0xFF]) := by
  intro job disk laidOut
  have hdisk : disk.Unambiguous := ((Disk.unambiguous_empty []).putFile _ _).putFile _ _
  obtain ⟨-, -, helsewhere, hfile⟩ := layOut_outcome_and_disk job disk hdisk "a.html".toList
  have hread : disk.read "a.html".toList = .ok Disk.tornOctets := by decide +kernel
  obtain ⟨-, hfailed, -, -, -, hcut⟩ := hfile Disk.tornOctets hread
  have hwrite : laidOut.2 = .error (.write "a.html".toList .fileTooLarge) :=
    (hfailed _).mpr ⟨by decide +kernel, rfl, Or.inr ⟨by decide +kernel, rfl, 10, rfl,
      by decide +kernel⟩⟩
  obtain ⟨n, hlimit, hafter⟩ := hcut _ hwrite (by decide +kernel)
  obtain rfl : 10 = n := Option.some.inj hlimit
  refine ⟨hdisk, hwrite, hafter.trans ?_, (helsewhere _ ?_).trans ?_⟩
  · decide +kernel
  · decide +kernel
  · decide +kernel

end Job

end LeafLayout
