import LeafLayout.Proofs.Batch.Verdicts
import LeafLayout.Proofs.Layout.Content
import LeafLayout.Proofs.Text.Decoding
import LeafLayout.Proofs.Text.Utf8

/-!
What the layout of a file keeps of its octets. A text is read and laid out without losing, doubling
or moving a character that is not blank, and what is written whole reads back as that text; so the
ASCII octets that are not blank stay, in order, whatever ill-formed octets stand around them.
-/

set_option autoImplicit false

namespace LeafLayout

open Text Markup

namespace Job

variable {job : Job} {content : List UInt8} {outcome : Outcome}

theorem nonblanks_decode_revised {refusal? : Access → Option Fault}
    (hindent : AllBlank job.style.indent) (h : job.verdict refusal? content = .ok outcome) :
    nonblanks (Utf8.decode (job.revised refusal? content)) = nonblanks (Utf8.decode content) := by
  rcases revised_eq_or h with ⟨hkept, -⟩ | hwritten
  · rw [hkept]
  · obtain ⟨pieces, hpieces⟩ := exists_segmented (Utf8.decode content)
    rw [hwritten, Utf8.decode_encode, Style.arrange_eq hpieces,
      Style.nonblanks_flatMap_rendered hindent, hpieces.sourceOf_eq]

theorem verdict_of_layOut {disk after : Disk} (hdisk : disk.Unambiguous) {path : Path}
    {place : Place} (hresolve : disk.resolve path = .ok place)
    (hcontent : disk.contentAt? place = some content)
    (h : job.layOut disk path = (after, .ok outcome)) :
    after = disk.amend (Disk.onlyAt place (job.revised (disk.refusal? place))) ∧
      job.verdict (disk.refusal? place) content = .ok outcome := by
  constructor
  · rw [layOut_eq job hdisk hresolve hcontent] at h
    exact (congrArg Prod.fst h).symm
  · exact (layOut_snd_eq_ok_iff hdisk hresolve hcontent outcome).mp (congrArg Prod.snd h)

theorem exists_read_of_layOut {disk after : Disk} {path : Path}
    (h : job.layOut disk path = (after, .ok outcome)) :
    ∃ content, disk.read path = .ok content := by
  cases hread : disk.read path with
  | error fault =>
    rw [layOut_of_read_eq_error job hread] at h
    cases h
  | ok content => exact ⟨content, rfl⟩

/-- If a file is laid out, with a blank indent and without a failure, it had a content before and
has one after, with the same ASCII octets in the same order apart from blanks. A text that was well
formed stays so and has the same characters apart from blanks, and what is written as a change is
well formed whatever was there before. -/
theorem layOut_keeps_marks (job : Job) (disk after : Disk) (path : Path) (outcome : Outcome)
    (hindent : ∀ c ∈ job.style.indent, isBlank c = true) (hdisk : disk.Unambiguous)
    (h : job.layOut disk path = (after, .ok outcome)) :
    ∃ content later, disk.read path = .ok content ∧ after.read path = .ok later ∧
      Utf8.marks later = Utf8.marks content ∧
      (∀ text, content = Utf8.encode text →
        ∃ kept, later = Utf8.encode kept ∧ nonblanks kept = nonblanks text) ∧
      (outcome = .changed → job.dryRun = false → ∃ text, later = Utf8.encode text) := by
  obtain ⟨content, hread⟩ := exists_read_of_layOut h
  obtain ⟨place, hresolve, hcontent, hgranted⟩ := Disk.read_eq_ok_iff.mp hread
  obtain ⟨rfl, hverdict⟩ := verdict_of_layOut hdisk hresolve hcontent h
  let revised := job.revised (disk.refusal? place)
  have hlater := Disk.read_amend (Disk.onlyAt place revised) hresolve hcontent hgranted
  rw [Disk.onlyAt, if_pos rfl] at hlater
  have hsame := nonblanks_decode_revised hindent hverdict
  refine ⟨content, revised content, hread, hlater,
    Utf8.marks_eq_of_nonblanks_decode_eq hsame, ?_, ?_⟩
  · rintro text rfl
    obtain ⟨kept, hkept⟩ : ∃ kept, revised (Utf8.encode text) = Utf8.encode kept := by
      rcases revised_eq_or hverdict with ⟨hkept, -⟩ | hwritten
      · exact ⟨text, hkept⟩
      · exact ⟨_, hwritten⟩
    change nonblanks (Utf8.decode (revised _)) = _ at hsame
    rw [hkept, Utf8.decode_encode, Utf8.decode_encode] at hsame
    exact ⟨kept, hkept, hsame⟩
  · intro hchanged hwrite
    rcases revised_eq_or hverdict with ⟨-, hdry⟩ | hwritten
    · exact absurd ((hdry hchanged).symm.trans hwrite) Bool.noConfusion
    · exact ⟨_, hwritten⟩

end Job

/-- Octets that are not well formed right before a tag, in a text and before its close tag. -/
def Disk.tornOctets : List UInt8 :=
  [0xE2, 0x82] ++ Utf8.encode "<p>".toList ++ [0xC0] ++ Utf8.encode "x  y".toList ++ [0xF0, 0x9F] ++
    Utf8.encode "</p>".toList

def Disk.torn : Disk :=
  (Disk.empty []).putFile ["a.html".toList] Disk.tornOctets

theorem Job.layOut_keeps_marks_torn :
    let laidOut := Job.layOut {} Disk.torn "a.html".toList
    (∀ c ∈ ({} : Style).indent, isBlank c = true) ∧ Disk.torn.Unambiguous ∧
      laidOut.2 = .ok .changed ∧ ∃ later, laidOut.1.read "a.html".toList = .ok later ∧
        Utf8.marks later = Utf8.encode "<p>xy</p>".toList ∧ ∃ text, later = Utf8.encode text := by
  intro laidOut
  have hindent : AllBlank ({} : Style).indent := by decide
  have hdisk : Disk.torn.Unambiguous := (Disk.unambiguous_empty []).putFile _ _
  have hchanged : laidOut.2 = .ok .changed := by decide +kernel
  obtain ⟨content, later, hbefore, hafter, hmarks, -, hwritten⟩ :=
    Job.layOut_keeps_marks {} Disk.torn laidOut.1 "a.html".toList .changed hindent hdisk
      (Prod.ext rfl hchanged)
  have hread : Disk.torn.read "a.html".toList = .ok Disk.tornOctets := by decide +kernel
  have hsame : Utf8.marks content = Utf8.encode "<p>xy</p>".toList := by
    rw [Except.ok.inj (hbefore.symm.trans hread)]
    decide +kernel
  exact ⟨hindent, hdisk, hchanged, later, hafter, hmarks.trans hsame, hwritten rfl rfl⟩

end LeafLayout
