import LeafLayout.Text.Pieces

/-!
Paths as they are written. A path is read as a sequence of steps, in which doubled slashes and dots
between slashes do not count; two paths are ordered step by step, so that everything below a
directory comes before its next sibling.
-/

set_option autoImplicit false

namespace LeafLayout

abbrev Name := List Char

abbrev Path := List Char

namespace Path

/-- What stands between the slashes, empty pieces included. -/
def pieces (path : Path) : List Name :=
  Text.pieces '/' path

def isAbsolute (path : Path) : Bool :=
  path.head? == some '/'

inductive Step where
  | root
  | here
  | up
  | down (name : Name)
deriving DecidableEq, Repr

def Step.ofPiece? : Name → Option Step
  | [] => none
  | ['.'] => none
  | ['.', '.'] => some .up
  | name => some (.down name)

/-- Only a dot at the start of a path is a step. -/
def steps (path : Path) : List Step :=
  if path.isAbsolute then .root :: path.pieces.filterMap Step.ofPiece?
  else
    match path.pieces with
    | ['.'] :: more => .here :: more.filterMap Step.ofPiece?
    | all => all.filterMap Step.ofPiece?

def Step.rank : Step → Nat
  | .root => 0
  | .here => 1
  | .up => 2
  | .down _ => 3

def Step.name : Step → Name
  | .down name => name
  | _ => []

def Step.compare : Step → Step → Ordering :=
  compareLex (compareOn Step.rank) (compareOn Step.name)

def compare (first second : Path) : Ordering :=
  List.compareLex Step.compare first.steps second.steps

def sort (paths : List Path) : List Path :=
  paths.mergeSort fun first second ↦ (first.compare second).isLE

/-- A path that leads nowhere but to where it starts. -/
def isHere (path : Path) : Bool :=
  path.steps == [.here]

def fileName? (path : Path) : Option Name :=
  match path.steps.getLast? with
  | some (.down name) => some name
  | _ => none

/-- What follows the last dot of a file's name, unless that dot comes first or there is none. -/
def extension? (path : Path) : Option Name :=
  path.fileName?.bind fun name ↦
    match name.reverse.dropWhile (· ≠ '.') with
    | [] => none
    | _ :: stem => if stem.isEmpty then none else some (name.drop (stem.length + 1))

def hasHtmlExtension (path : Path) : Bool :=
  path.extension?.any fun extension ↦ extension.map Char.toLower == "html".toList

def join (path : Path) (name : Name) : Path :=
  if path.isEmpty || path.getLast? == some '/' then path ++ name else path ++ '/' :: name

/-- Where a directory reached by a path has an entry of some name: entries of the directory one
starts from go by their bare names. -/
def entry (path : Path) (name : Name) : Path :=
  if path.isHere then name else path.join name

end Path

end LeafLayout
