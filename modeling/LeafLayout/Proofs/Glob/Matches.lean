import LeafLayout.Glob.Walk
import LeafLayout.Proofs.Disk.Outline

/-!
The matches of patterns, in whatever way they are found. A pattern is malformed or it is not, on
every disk alike, and its matches come in the order of paths. Where walks keep to the outline of a
disk, they find the same however the contents of files differ.
-/

set_option autoImplicit false

namespace LeafLayout

namespace Path

instance : Std.TransCmp Step.compare :=
  inferInstanceAs (Std.TransCmp (compareLex (compareOn Step.rank) (compareOn Step.name)))

theorem compare_swap (first second : Path) :
    first.compare second = (second.compare first).swap :=
  @Std.OrientedCmp.eq_swap _ (List.compareLex Step.compare) _ _ _

theorem isLE_compare_trans (first second third : Path) (h : (first.compare second).isLE = true)
    (hmore : (second.compare third).isLE = true) : (first.compare third).isLE = true :=
  @Std.TransCmp.isLE_trans _ (List.compareLex Step.compare) _ _ _ _ h hmore

theorem isLE_compare_total (first second : Path) :
    ((first.compare second).isLE || (second.compare first).isLE) = true := by
  rw [compare_swap second first]
  cases first.compare second <;> rfl

theorem pairwise_sort (paths : List Path) :
    (sort paths).Pairwise fun first second ↦ (first.compare second).isLE = true :=
  List.pairwise_mergeSort isLE_compare_trans isLE_compare_total paths

end Path

namespace Glob.Walker

/-- What a walk comes upon depends on a disk by its outline alone. -/
def KeepsToOutline (walker : Walker) : Prop :=
  ∀ text walk, walker text = .ok walk →
    ∀ first second : Disk, first.outline = second.outline → walk first = walk second

/-- The matches of a pattern, of which a malformed one has none. -/
def pathsOn (walker : Walker) (disk : Disk) (text : List Char) : List Path :=
  match walker.matchesOn disk text with
  | .ok found => found.paths
  | .error _ => []

def isMalformed (walker : Walker) (text : List Char) : Bool :=
  !(walker text).isOk

theorem KeepsToOutline.pathsOn_congr {walker : Walker} (h : walker.KeepsToOutline)
    {first second : Disk} (houtline : first.outline = second.outline) :
    walker.pathsOn first = walker.pathsOn second := by
  funext text
  unfold pathsOn matchesOn
  cases hread : walker text with
  | error error => rfl
  | ok walk => rw [Except.map, Except.map, h text walk hread first second houtline]

variable (walker : Walker) (disk : Disk)

theorem pairwise_pathsOn (text : List Char) :
    (walker.pathsOn disk text).Pairwise fun first second ↦
      (first.compare second).isLE = true := by
  unfold pathsOn matchesOn
  cases walker text with
  | error error => exact List.Pairwise.nil
  | ok walk => exact Path.pairwise_sort _

theorem pathsOn_of_isMalformed {text : List Char} (h : walker.isMalformed text = true) :
    walker.pathsOn disk text = [] := by
  unfold isMalformed at h
  unfold pathsOn matchesOn
  cases hread : walker text with
  | error error => rfl
  | ok walk =>
    rw [hread] at h
    cases h

/-- Only patterns that are well formed have matches. -/
theorem flatMap_pathsOn (patterns : List (List Char)) :
    patterns.flatMap (walker.pathsOn disk) =
      (patterns.filter fun pattern ↦ !walker.isMalformed pattern).flatMap
        (walker.pathsOn disk) := by
  induction patterns with
  | nil => rfl
  | cons pattern more ih =>
    rw [List.flatMap_cons, List.filter_cons, ih]
    by_cases hmalformed : walker.isMalformed pattern = true
    · simp [hmalformed, walker.pathsOn_of_isMalformed disk hmalformed]
    · simp [hmalformed]

end Glob.Walker

end LeafLayout
