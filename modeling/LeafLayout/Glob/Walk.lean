import LeafLayout.Disk.Basic
import LeafLayout.Glob.Pattern

/-!
The entries of a disk that a glob pattern matches. The walk goes from the root or from the working
directory along the components of the pattern; it comes upon entries in the order of their names,
each directory before what it holds, and upon directories that cannot be listed, which it reports
and leaves.
-/

set_option autoImplicit false

namespace LeafLayout.Glob

/-- A path that the walk has reached, and whether a directory is there. -/
structure Spot where
  path : Path
  isDirectory : Bool
deriving DecidableEq, Repr

inductive Finding where
  | entry (spot : Spot)
  | unreadable (path : Path) (fault : Fault)
deriving DecidableEq, Repr

def Spot.ofPath (disk : Disk) (path : Path) : Spot :=
  ⟨path, disk.isDirectory path⟩

def Spot.accepted (spot : Spot) (component : Component) : Bool :=
  spot.path.fileName?.any component.accepts

def children (disk : Disk) (spot : Spot) : Except Fault (List Spot) := do
  let listed ← disk.list spot.path
  return listed.map fun shown ↦ ⟨spot.path.entry shown.1, shown.2⟩

/-- All that lies below a directory, down to so many levels; no place on a disk lies deeper than
its depth. -/
def below (disk : Disk) : Nat → Spot → List Finding
  | 0, _ => []
  | levels + 1, spot =>
    match children disk spot with
    | .error fault => [.unreadable spot.path fault]
    | .ok spots => spots.flatMap fun child ↦
      .entry child :: if child.isDirectory then below disk levels child else []

/-- A dot and two dots are only found where a directory is; any other name without wildcards is
found where the path to it leads somewhere. -/
def plainStep? (disk : Disk) (spot : Spot) (name : Name) : Option Spot :=
  let path := spot.path.entry name
  let found := if name = ['.'] ∨ name = ['.', '.'] then spot.isDirectory else disk.has path
  if found then some (Spot.ofPath disk path) else none

/-- The entries that listings do not show, the parent before the directory itself. A wildcard
stands for one only if the pattern writes the dot. -/
def dotSteps (disk : Disk) (spot : Spot) (tokens : List Token) : List Spot :=
  if tokens.head? = some (.exactly '.') then
    ([['.', '.'], ['.']].filter (Token.listMatches tokens)).map fun name ↦
      Spot.ofPath disk (spot.path.join name)
  else []

/-- Everything that matches from a spot on. Any depth leads to what lies below the spot, at every
level, but not to the spot itself; as the last component it leads to directories only. -/
def search (disk : Disk) : List Component → Spot → List Finding
  | [], spot => [.entry spot]
  | .plain name :: more, spot =>
    match plainStep? disk spot name with
    | some next => search disk more next
    | none => []
  | .wild tokens :: more, spot =>
    if spot.isDirectory then
      match children disk spot with
      | .error fault => [.unreadable spot.path fault]
      | .ok spots =>
        (dotSteps disk spot tokens ++ spots.filter (·.accepted (.wild tokens))).flatMap
          (search disk more)
    else []
  | [.anyDepth], spot =>
    if spot.isDirectory then
      (below disk (disk.depth + 1) spot).filter fun
        | .entry found => found.isDirectory
        | .unreadable _ _ => true
    else []
  | .anyDepth :: component :: more, spot =>
    if spot.isDirectory then
      (below disk (disk.depth + 1) spot).flatMap fun
        | .entry found => if found.accepted component then search disk more found else []
        | .unreadable path fault => [.unreadable path fault]
    else []

/-- What is asked of a way to match patterns: a malformed pattern is refused, and any other is a
walk over a disk, which comes upon paths that match and upon directories that cannot be listed. -/
abbrev Walker := List Char → Except SyntaxError (Disk → List (Except (Path × Fault) Path))

def Pattern.walk (pattern : Pattern) (disk : Disk) : List (Except (Path × Fault) Path) :=
  let start := Spot.ofPath disk (if pattern.absolute then ['/'] else ['.'])
  (search disk pattern.components start).filterMap fun
    | .entry spot =>
      if pattern.directoriesOnly && !spot.isDirectory then none else some (.ok spot.path)
    | .unreadable path fault => some (.error (path, fault))

def walker : Walker := fun text ↦ (Pattern.read text).map Pattern.walk

/-- What a pattern comes to: the paths in order, and the directories that could not be listed. -/
structure Matches where
  paths : List Path
  unreadable : List (Path × Fault)
deriving DecidableEq, Repr

def Matches.ofFindings (findings : List (Except (Path × Fault) Path)) : Matches where
  paths := Path.sort (findings.filterMap Except.toOption)
  unreadable := findings.filterMap fun
    | .ok _ => none
    | .error passed => some passed

def Walker.matchesOn (walker : Walker) (disk : Disk) (text : List Char) :
    Except SyntaxError Matches :=
  (walker text).map fun walk ↦ Matches.ofFindings (walk disk)

def matchesOn (disk : Disk) (text : List Char) : Except SyntaxError Matches :=
  walker.matchesOn disk text

end LeafLayout.Glob
