import LeafLayout.Batch
import LeafLayout.Proofs.Disk.Pages

/-!
How the layout of one file goes. It is decided by the content of the file and by what the system
refuses of it: a file that may not be read stays as it is, and so does one whose text is laid out to
itself, in a dry run any file, and one that may not be written. Otherwise the new text is written,
or as much of it as the limit allows.
-/

set_option autoImplicit false

namespace LeafLayout

open Text

/-- An access that fails, and why. -/
structure Obstacle where
  access : Access
  fault : Fault
deriving DecidableEq, Repr

def Obstacle.failure (obstacle : Obstacle) (path : Path) : Failure :=
  match obstacle.access with
  | .read => .read path obstacle.fault
  | .write => .write path obstacle.fault

/-- What is in a file once its text was laid out, of which no more is written than the limit allows.
A file whose text does not change keeps its octets. -/
def Style.rewritten (style : Style) (limit : Option Nat) (content : List UInt8) : List UInt8 :=
  let text := Utf8.decode content
  if style.arrange text = text then content
  else
    let octets := Utf8.encode (style.arrange text)
    limit.elim octets octets.take

/-- The text of a file does not change by being laid out. -/
def Style.IsSettled (style : Style) (content : List UInt8) : Prop :=
  style.arrange (Utf8.decode content) = Utf8.decode content

namespace Job

/-- Why octets cannot be written whole to a file, if they cannot. -/
def writeFault? (job : Job) (refusal? : Option Fault) (octets : List UInt8) : Option Fault :=
  refusal?.or (if job.limit.any (· < octets.length) then some .fileTooLarge else none)

/-- What is in a file with some content once it was laid out, given what is refused of it. -/
def revised (job : Job) (refusal? : Access → Option Fault) (content : List UInt8) : List UInt8 :=
  if refusal? .read = none ∧ refusal? .write = none ∧ job.dryRun = false then
    job.style.rewritten job.limit content
  else content

/-- How the layout goes. -/
def verdict (job : Job) (refusal? : Access → Option Fault) (content : List UInt8) :
    Except Obstacle Outcome :=
  match refusal? .read with
  | some fault => .error ⟨.read, fault⟩
  | none =>
    let text := Utf8.decode content
    if job.style.arrange text = text then .ok .unchanged
    else if job.dryRun then .ok .changed
    else
      match job.writeFault? (refusal? .write) (Utf8.encode (job.style.arrange text)) with
      | some fault => .error ⟨.write, fault⟩
      | none => .ok .changed

theorem revised_of_refused (job : Job) {refusal? : Access → Option Fault} {access : Access}
    {fault : Fault} (h : refusal? access = some fault) : job.revised refusal? = id := by
  funext content
  refine if_neg ?_
  rintro ⟨hread, hwrite, -⟩
  cases access with
  | read => rw [h] at hread; cases hread
  | write => rw [h] at hwrite; cases hwrite

theorem revised_of_dryRun {job : Job} (h : job.dryRun = true)
    (refusal? : Access → Option Fault) : job.revised refusal? = id := by
  funext content
  refine if_neg ?_
  rintro ⟨-, -, hwrite⟩
  exact absurd (hwrite.symm.trans h) Bool.false_ne_true

theorem revised_of_isSettled {job : Job} {content : List UInt8}
    (h : job.style.IsSettled content) (refusal? : Access → Option Fault) :
    job.revised refusal? content = content := by
  have hkept : job.style.rewritten job.limit content = content := if_pos h
  rw [revised, hkept, ite_self]

/-- What cannot be read is not written either. -/
theorem layOut_of_read_eq_error (job : Job) {disk : Disk} {path : Path} {fault : Fault}
    (h : disk.read path = .error fault) :
    job.layOut disk path = (disk, .error (.read path fault)) := by
  simp only [layOut, h]

/-- A page is laid out by its content and by what is refused of it: the disk is amended at its place
and nowhere else. -/
theorem layOut_eq (job : Job) {disk : Disk} (hdisk : disk.Unambiguous) {path : Path} {place : Place}
    {content : List UInt8} (hresolve : disk.resolve path = .ok place)
    (hcontent : disk.contentAt? place = some content) :
    job.layOut disk path = (disk.amend (Disk.onlyAt place (job.revised (disk.refusal? place))),
      (job.verdict (disk.refusal? place) content).mapError (·.failure path)) := by
  have hkept (h : job.revised (disk.refusal? place) content = content) :
      disk.amend (Disk.onlyAt place (job.revised (disk.refusal? place))) = disk :=
    hdisk.amend_onlyAt_eq_self hcontent h
  have hrefused {access : Access} {fault : Fault}
      (h : disk.refusal? place access = some fault) :
      disk.amend (Disk.onlyAt place (job.revised (disk.refusal? place))) = disk :=
    hkept (by rw [job.revised_of_refused h, id])
  rw [layOut, Disk.read_of_contentAt? hresolve hcontent, verdict]
  cases hread : disk.refusal? place .read with
  | some fault =>
    rw [hrefused hread]
    rfl
  | none =>
    simp only [Option.elim_none]
    by_cases hsame : job.style.arrange (Utf8.decode content) = Utf8.decode content
    · rw [if_pos hsame, if_pos hsame, hkept (revised_of_isSettled hsame _)]
      rfl
    rw [if_neg hsame, if_neg hsame]
    by_cases hdry : job.dryRun = true
    · rw [if_pos hdry, if_pos hdry, hkept (by rw [revised_of_dryRun hdry, id])]
      rfl
    rw [if_neg hdry, if_neg hdry]
    cases hwrite : disk.refusal? place .write with
    | some fault =>
      rw [Disk.overwrite_of_refused hresolve hcontent hwrite, hrefused hwrite]
      rfl
    | none =>
      have hwritten : job.revised (disk.refusal? place) content =
          job.limit.elim (Utf8.encode (job.style.arrange (Utf8.decode content)))
            (Utf8.encode (job.style.arrange (Utf8.decode content))).take := by
        rw [revised, if_pos ⟨hread, hwrite, eq_false_of_ne_true hdry⟩, Style.rewritten,
          if_neg hsame]
      rw [hdisk.overwrite_eq hresolve hcontent hwrite,
        hdisk.amend_onlyAt_congr hcontent hwritten.symm, writeFault?, Option.none_or]
      split_ifs <;> rfl

section Result

variable {job : Job} {disk : Disk} {path : Path} {place : Place} {content : List UInt8}
  (hdisk : disk.Unambiguous) (hresolve : disk.resolve path = .ok place)
  (hcontent : disk.contentAt? place = some content)

include hdisk hresolve hcontent

theorem layOut_snd_eq_ok_iff (outcome : Outcome) :
    (job.layOut disk path).2 = .ok outcome ↔
      job.verdict (disk.refusal? place) content = .ok outcome := by
  rw [layOut_eq job hdisk hresolve hcontent]
  cases job.verdict (disk.refusal? place) content with
  | error obstacle => simp [Except.mapError]
  | ok found => simp [Except.mapError]

theorem layOut_snd_eq_write_error_iff (fault : Fault) :
    (job.layOut disk path).2 = .error (.write path fault) ↔
      job.verdict (disk.refusal? place) content = .error ⟨.write, fault⟩ := by
  rw [layOut_eq job hdisk hresolve hcontent]
  rcases job.verdict (disk.refusal? place) content with ⟨_ | _, found⟩ | found
  · simp [Except.mapError, Obstacle.failure]
  · simp [Except.mapError, Obstacle.failure]
  · simp [Except.mapError]

end Result

/-! ### Verdicts -/

section Verdict

variable {job : Job} {refusal? : Access → Option Fault} {content : List UInt8}

theorem writeFault?_eq_none_iff {refusal : Option Fault} {octets : List UInt8} :
    job.writeFault? refusal octets = none ↔
      refusal = none ∧ ∀ n, job.limit = some n → octets.length ≤ n := by
  rw [writeFault?, Option.or_eq_none_iff]
  refine and_congr_right fun _ ↦ ?_
  cases job.limit with
  | none => simp
  | some n => simp

theorem writeFault?_eq_some_iff {refusal : Option Fault} {octets : List UInt8} {fault : Fault} :
    job.writeFault? refusal octets = some fault ↔ refusal = some fault ∨
      refusal = none ∧ fault = .fileTooLarge ∧ ∃ n, job.limit = some n ∧ n < octets.length := by
  rw [writeFault?, Option.or_eq_some_iff]
  refine or_congr_right (and_congr_right fun _ ↦ ?_)
  cases job.limit with
  | none => simp
  | some n => simp [and_comm, eq_comm]

theorem verdict_eq_unchanged_iff :
    job.verdict refusal? content = .ok .unchanged ↔
      refusal? .read = none ∧ job.style.IsSettled content := by
  rw [verdict, Style.IsSettled]
  cases refusal? .read with
  | some fault => simp
  | none =>
    simp only [true_and]
    split_ifs with hsettled hdry
    · simp [hsettled]
    · simp [hsettled]
    · cases job.writeFault? _ _ <;> simp [hsettled]

theorem verdict_eq_changed_iff :
    job.verdict refusal? content = .ok .changed ↔
      refusal? .read = none ∧ ¬ job.style.IsSettled content ∧
        (job.dryRun = true ∨ job.writeFault? (refusal? .write)
          (Utf8.encode (job.style.arrange (Utf8.decode content))) = none) := by
  rw [verdict, Style.IsSettled]
  cases refusal? .read with
  | some fault => simp
  | none =>
    simp only [true_and]
    split_ifs with hsettled hdry
    · simp [hsettled]
    · simp [hsettled, hdry]
    · cases job.writeFault? _ _ <;> simp [hsettled, hdry]

theorem verdict_eq_read_error_iff {fault : Fault} :
    job.verdict refusal? content = .error ⟨.read, fault⟩ ↔ refusal? .read = some fault := by
  rw [verdict]
  cases refusal? .read with
  | some found => simp
  | none =>
    simp only [reduceCtorEq, iff_false]
    split_ifs
    · exact fun h ↦ by cases h
    · exact fun h ↦ by cases h
    · cases job.writeFault? _ _ <;> simp

theorem verdict_eq_write_error_iff {fault : Fault} :
    job.verdict refusal? content = .error ⟨.write, fault⟩ ↔
      refusal? .read = none ∧ ¬ job.style.IsSettled content ∧ job.dryRun = false ∧
        job.writeFault? (refusal? .write)
          (Utf8.encode (job.style.arrange (Utf8.decode content))) = some fault := by
  rw [verdict, Style.IsSettled]
  cases refusal? .read with
  | some found => simp
  | none =>
    simp only [true_and]
    split_ifs with hsettled hdry
    · simp [hsettled]
    · simp [hdry]
    · cases job.writeFault? _ _ <;> simp [hsettled, hdry]

/-! ### What is written -/

/-- What is kept of octets that the limit has room for. -/
theorem keep_eq_self {limit : Option Nat} {octets : List UInt8}
    (h : ∀ n, limit = some n → octets.length ≤ n) : limit.elim octets octets.take = octets := by
  cases limit with
  | none => rfl
  | some n => exact List.take_of_length_le (h n rfl)

/-- What is told as changed is written whole, unless it is a dry run. -/
theorem revised_of_verdict_eq_changed (hwrite : job.dryRun = false)
    (h : job.verdict refusal? content = .ok .changed) :
    job.revised refusal? content = Utf8.encode (job.style.arrange (Utf8.decode content)) := by
  obtain ⟨hread, hnew, hdry | hroom⟩ := verdict_eq_changed_iff.mp h
  · exact absurd (hwrite.symm.trans hdry) Bool.false_ne_true
  · obtain ⟨hgranted, hshort⟩ := writeFault?_eq_none_iff.mp hroom
    have hwritten : job.style.rewritten job.limit content = _ := if_neg hnew
    rw [revised, if_pos ⟨hread, hgranted, hwrite⟩, hwritten, keep_eq_self hshort]

/-- Where the layout of a file goes well, its octets stay, or the whole new text is written. -/
theorem revised_eq_or {outcome : Outcome} (h : job.verdict refusal? content = .ok outcome) :
    job.revised refusal? content = content ∧ (outcome = .changed → job.dryRun = true) ∨
      job.revised refusal? content =
        Utf8.encode (job.style.arrange (Utf8.decode content)) := by
  by_cases hdry : job.dryRun = true
  · exact Or.inl ⟨by rw [revised_of_dryRun hdry, id], fun _ ↦ hdry⟩
  · cases outcome with
    | changed => exact Or.inr (revised_of_verdict_eq_changed (eq_false_of_ne_true hdry) h)
    | unchanged =>
      have hkept := revised_of_isSettled (verdict_eq_unchanged_iff.mp h).2 refusal?
      exact Or.inl ⟨hkept, fun hchanged ↦ by cases hchanged⟩

end Verdict

end Job

end LeafLayout
