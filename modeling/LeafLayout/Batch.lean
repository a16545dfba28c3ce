import LeafLayout.Failure
import LeafLayout.Layout
import LeafLayout.Text.Utf8

/-!
Laying out many files. Each pattern is matched in turn and each page among its matches is laid out
in place; a file is written only if its text changes, and a failure concerns its own pattern or
file and nothing else. A dry run tells what would change and writes nothing.
-/

set_option autoImplicit false

namespace LeafLayout

open Text

inductive Outcome where
  | changed
  | unchanged
deriving DecidableEq, Repr

/-- How to go about the files. Without a limit, files may grow to any size. -/
structure Job where
  style : Style := {}
  dryRun : Bool := false
  limit : Option Nat := none

structure Tally where
  changed : List Path := []
  unchanged : Nat := 0
  skipped : Nat := 0
  failed : Nat := 0
deriving DecidableEq, Repr

inductive Event where
  | changed (path : Path) (dryRun : Bool)
  | unchanged (path : Path)
  | skipped (path : Path)
  | noMatch (pattern : List Char)
  | unreadable (path : Path) (fault : Fault)
  | failed (failure : Failure)
  | done (tally : Tally)

/-- A run under way: the disk as it is now, the tally so far and the events, in order. -/
structure Batch where
  disk : Disk
  tally : Tally := {}
  events : List Event := []

/-- Lays out one file in place. What is compared is the text as it was read, so that a file with
ill-formed octets is left as it is if nothing in it is laid out. -/
def Job.layOut (job : Job) (disk : Disk) (path : Path) : Disk × Except Failure Outcome :=
  match disk.read path with
  | .error fault => (disk, .error (.read path fault))
  | .ok content =>
    let text := Utf8.decode content
    let arranged := job.style.arrange text
    if arranged = text then (disk, .ok .unchanged)
    else if job.dryRun then (disk, .ok .changed)
    else
      match disk.overwrite job.limit path (Utf8.encode arranged) with
      | (disk, .ok ()) => (disk, .ok .changed)
      | (disk, .error fault) => (disk, .error (.write path fault))

namespace Batch

def note (batch : Batch) (event : Event) : Batch :=
  { batch with events := batch.events ++ [event] }

def fail (batch : Batch) (failure : Failure) : Batch :=
  { batch with tally := { batch.tally with failed := batch.tally.failed + 1 } }.note
    (.failed failure)

/-- The batch after one match of a pattern. -/
def visitPath (job : Job) (batch : Batch) (path : Path) : Batch :=
  let tally := batch.tally
  if batch.disk.isPage path then
    match job.layOut batch.disk path with
    | (disk, .ok .changed) =>
      { batch with disk, tally := { tally with changed := tally.changed ++ [path] } }.note
        (.changed path job.dryRun)
    | (disk, .ok .unchanged) =>
      { batch with disk, tally := { tally with unchanged := tally.unchanged + 1 } }.note
        (.unchanged path)
    | (disk, .error failure) => { batch with disk }.fail failure
  else
    { batch with tally := { tally with skipped := tally.skipped + 1 } }.note (.skipped path)

/-- The batch after one pattern. All its matches are found before the first of them is laid out. -/
def visitPattern (walker : Glob.Walker) (job : Job) (batch : Batch) (pattern : List Char) :
    Batch :=
  match walker.matchesOn batch.disk pattern with
  | .error error => batch.fail (.pattern pattern error)
  | .ok found =>
    let batch := found.unreadable.foldl (fun batch passed ↦
      batch.note (.unreadable passed.1 passed.2)) batch
    let batch := if found.paths.isEmpty then batch.note (.noMatch pattern) else batch
    found.paths.foldl (visitPath job) batch

end Batch

/-- The batch after all patterns, one by one, in whatever way they are matched. -/
def Job.carryOutBy (walker : Glob.Walker) (job : Job) (disk : Disk) (patterns : List (List Char)) :
    Batch :=
  let batch := patterns.foldl (Batch.visitPattern walker job) { disk := disk }
  batch.note (.done batch.tally)

def Job.carryOut (job : Job) (disk : Disk) (patterns : List (List Char)) : Batch :=
  job.carryOutBy Glob.walker disk patterns

end LeafLayout
