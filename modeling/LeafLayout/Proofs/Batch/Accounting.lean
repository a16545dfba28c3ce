import LeafLayout.Proofs.Batch.Order
import Mathlib.Algebra.Ring.Nat

/-!
What a tally accounts for. Every match that the patterns have on the disk as it was at first is
counted under one number, be it that it changed, that it stayed, that it is no page, or that reading
or writing it failed; and every malformed pattern is counted under the failures. The paths named as
changed are among the matches, in the order in which these are found: pattern by pattern, and for
each pattern in the order of paths. A malformed pattern is one more failure wherever it stands, and
nothing besides.
-/

set_option autoImplicit false

namespace LeafLayout

theorem Tally.changed_ofArrivals_sublist (arrivals : List Arrival) (refused : Nat) :
    (ofArrivals arrivals refused).changed.Sublist (arrivals.map Arrival.path) :=
  List.filter_sublist.map Arrival.path

namespace Job

variable (job : Job) {walker : Glob.Walker} (hwalker : walker.KeepsToOutline) {disk : Disk}
  (hdisk : disk.Unambiguous)

include hwalker hdisk

theorem total_carryOutBy (patterns : List (List Char)) :
    let tally := (job.carryOutBy walker disk patterns).tally
    tally.changed.length + tally.unchanged + tally.skipped + tally.failed =
      (patterns.flatMap (walker.pathsOn disk)).length + patterns.countP walker.isMalformed := by
  intro tally
  have htally : tally = _ := job.carryOutBy_tally hwalker hdisk patterns
  rw [htally, Tally.total_ofArrivals, length_arrivals]

theorem changed_carryOutBy_sublist (patterns : List (List Char)) :
    (job.carryOutBy walker disk patterns).tally.changed.Sublist
      (patterns.flatMap (walker.pathsOn disk)) := by
  have hchanged := Tally.changed_ofArrivals_sublist
    (job.arrivals disk (patterns.flatMap (walker.pathsOn disk)))
    (patterns.countP walker.isMalformed)
  rwa [map_path_arrivals, ← job.carryOutBy_tally hwalker hdisk] at hchanged

/-- A malformed pattern has no matches, so the course of the batch is the same without it. -/
theorem carryOutBy_insert (before after : List (List Char)) {malformed : List Char}
    (h : walker.isMalformed malformed = true) :
    let batch := job.carryOutBy walker disk (before ++ after)
    let more := job.carryOutBy walker disk (before ++ malformed :: after)
    more.disk = batch.disk ∧
      more.tally = { batch.tally with failed := batch.tally.failed + 1 } := by
  have hpaths : (before ++ malformed :: after).flatMap (walker.pathsOn disk) =
      (before ++ after).flatMap (walker.pathsOn disk) := by
    simp only [List.flatMap_append, List.flatMap_cons, walker.pathsOn_of_isMalformed disk h,
      List.nil_append]
  have hrefused : (before ++ malformed :: after).countP walker.isMalformed =
      (before ++ after).countP walker.isMalformed + 1 := by
    rw [List.countP_append, List.countP_cons_of_pos h, List.countP_append, Nat.add_assoc]
  intro batch more
  constructor
  · rw [job.carryOutBy_disk hwalker hdisk, job.carryOutBy_disk hwalker hdisk, hpaths]
  · rw [job.carryOutBy_tally hwalker hdisk, job.carryOutBy_tally hwalker hdisk, hpaths, hrefused]
    rfl

end Job

/-- Whatever the style and the limit, whatever the system refuses, and in a dry run too, a tally
counts each match of a well-formed pattern and each malformed pattern once. It names as changed some
of the matches, in the order of the patterns and, for each pattern, of the paths. A malformed
pattern put in anywhere adds one failure and changes nothing else, neither in the tally nor on the
disk. -/
theorem Job.carryOut_accounts (job : Job) (disk : Disk) (hdisk : disk.Unambiguous)
    (patterns : List (List Char)) :
    let batch := job.carryOut disk patterns
    let wellFormed := patterns.filter fun pattern ↦ !Glob.walker.isMalformed pattern
    batch.tally.changed.length + batch.tally.unchanged + batch.tally.skipped + batch.tally.failed =
        patterns.countP Glob.walker.isMalformed +
          (wellFormed.map fun pattern ↦ (Glob.walker.pathsOn disk pattern).length).sum ∧
      batch.tally.changed.Sublist (wellFormed.flatMap (Glob.walker.pathsOn disk)) ∧
      (∀ pattern ∈ wellFormed, (Glob.walker.pathsOn disk pattern).Pairwise
        fun first second ↦ (first.compare second).isLE = true) ∧
      ∀ before after malformed, patterns = before ++ after →
        Glob.walker.isMalformed malformed = true →
        (job.carryOut disk (before ++ malformed :: after)).disk = batch.disk ∧
        (job.carryOut disk (before ++ malformed :: after)).tally =
          { batch.tally with failed := batch.tally.failed + 1 } := by
  intro batch wellFormed
  have hwalker := Glob.walker_keepsToOutline
  refine ⟨?_, ?_, fun pattern _ ↦ Glob.walker.pairwise_pathsOn disk pattern, ?_⟩
  · have htotal := job.total_carryOutBy hwalker hdisk patterns
    rw [Glob.Walker.flatMap_pathsOn, List.length_flatMap] at htotal
    exact htotal.trans (Nat.add_comm _ _)
  · have hchanged := job.changed_carryOutBy_sublist hwalker hdisk patterns
    rwa [Glob.Walker.flatMap_pathsOn] at hchanged
  · rintro before after malformed rfl hmalformed
    exact job.carryOutBy_insert hwalker hdisk before after hmalformed

/-- The shelf with one more page, which may not be read. -/
def Disk.lockedShelf : Disk :=
  (Disk.shelf.putFile ["c.html".toList] (Text.Utf8.encode "<b>y</b>".toList)).refuse
    ["c.html".toList] .read .permissionDenied

/-- A page for which there is no room, a page that may not be read, a file that is no page and a
malformed pattern are four; a second malformed pattern among them is one more failure. -/
theorem Job.carryOut_accounts_shelf :
    let job : Job := { limit := some 5 }
    let patterns := ["a.html".toList, "[".toList, "b.txt".toList, "c.html".toList]
    let tally := (job.carryOut Disk.lockedShelf patterns).tally
    Disk.lockedShelf.Unambiguous ∧ Disk.lockedShelf.isPage "c.html".toList = true ∧
      Disk.lockedShelf.read "c.html".toList = .error .permissionDenied ∧
      Glob.walker.isMalformed "a**".toList = true ∧
      tally.changed.length + tally.unchanged + tally.skipped + tally.failed = 4 ∧
      tally = { skipped := 1, failed := 3 } ∧
      (job.carryOut Disk.lockedShelf ("a.html".toList :: "a**".toList ::
        ["[".toList, "b.txt".toList, "c.html".toList])).tally = { skipped := 1, failed := 4 } := by
  intro job patterns tally
  have hdisk : Disk.lockedShelf.Unambiguous :=
    ((((Disk.unambiguous_empty []).putFile _ _).putFile _ _).putFile _ _).refuse _ _ _
  have hpage : Disk.lockedShelf.isPage "c.html".toList = true := by decide +kernel
  have hlocked : Disk.lockedShelf.read "c.html".toList = .error .permissionDenied := by
    decide +kernel
  have hmalformed : Glob.walker.isMalformed "a**".toList = true := by decide +kernel
  have htally : tally = { skipped := 1, failed := 3 } := by
    refine (job.carryOutBy_tally Glob.walker_keepsToOutline hdisk patterns).trans ?_
    decide +kernel
  obtain ⟨htotal, -, -, hinsert⟩ := Job.carryOut_accounts job Disk.lockedShelf hdisk patterns
  have hmore := (hinsert ["a.html".toList] ["[".toList, "b.txt".toList, "c.html".toList]
    "a**".toList rfl hmalformed).2
  refine ⟨hdisk, hpage, hlocked, hmalformed, htotal.trans (by decide +kernel), htally,
    hmore.trans ?_⟩
  rw [show (job.carryOut Disk.lockedShelf patterns).tally = _ from htally]

end LeafLayout
