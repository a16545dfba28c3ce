import LeafLayout.Disk.Path
import LeafLayout.Disk.Fault
import LeafLayout.Text.Cursor

/-!
A disk as a table of what is at each place. A path is followed piece by piece from the root or from
the working directory; the system refuses paths and names that are too long whatever they lead to,
though a directory's listing shows an entry even where the path to it would be refused. It may also
refuse to read or to write what is at a place, without hiding that it is there. Writing replaces a
file's content, up to a limit on its size.
-/

set_option autoImplicit false

namespace LeafLayout

/-- The names that lead to a place from the root. -/
abbrev Place := List Name

inductive Entry where
  | directory
  | file (content : List UInt8)
deriving DecidableEq, Repr

def Entry.isDirectory : Entry → Bool
  | .directory => true
  | .file _ => false

/-- What is done to an entry: a directory is read by listing it. -/
inductive Access where
  | read
  | write
deriving DecidableEq, Repr

/-- Besides what is at each place, which accesses to it the system refuses, and why. -/
structure Disk where
  here : Place := []
  entries : List (Place × Entry) := []
  refusals : List ((Place × Access) × Fault) := []
deriving Repr

namespace Disk

def longestPath : Nat := 4095

def longestName : Nat := 255

/-- What is at a place; the root is always a directory. -/
def entryAt? (disk : Disk) (place : Place) : Option Entry :=
  if place = [] then some .directory else disk.entries.lookup place

/-- Why an access to a place is refused, if it is. -/
def refusal? (disk : Disk) (place : Place) (access : Access) : Option Fault :=
  disk.refusals.lookup (place, access)

def follow (disk : Disk) (place : Place) : List Name → Except Fault Place
  | [] => .ok place
  | piece :: more =>
    match disk.entryAt? place with
    | none => .error .notFound
    | some (.file _) => .error .notADirectory
    | some .directory =>
      if piece = [] ∨ piece = ['.'] then disk.follow place more
      else if piece = ['.', '.'] then disk.follow place.dropLast more
      else if longestName < Text.octetCount piece then .error .nameTooLong
      else if (disk.entryAt? (place ++ [piece])).isNone then .error .notFound
      else disk.follow (place ++ [piece]) more

def resolve (disk : Disk) (path : Path) : Except Fault Place :=
  if path.contains '\x00' then .error .nulInName
  else if path.isEmpty then .error .notFound
  else if longestPath < Text.octetCount path then .error .nameTooLong
  else disk.follow (if path.isAbsolute then [] else disk.here) path.pieces

def entry? (disk : Disk) (path : Path) : Except Fault Entry := do
  let place ← disk.resolve path
  match disk.entryAt? place with
  | none => .error .notFound
  | some entry => .ok entry

def has (disk : Disk) (path : Path) : Bool :=
  match disk.entry? path with
  | .ok _ => true
  | .error _ => false

def isDirectory (disk : Disk) (path : Path) : Bool :=
  match disk.entry? path with
  | .ok .directory => true
  | _ => false

def isFile (disk : Disk) (path : Path) : Bool :=
  match disk.entry? path with
  | .ok (.file _) => true
  | _ => false

/-- A regular file with the extension of a page, in any case. -/
def isPage (disk : Disk) (path : Path) : Bool :=
  disk.isFile path && path.hasHtmlExtension

/-- What a directory holds, by name, and whether each entry is itself a directory. -/
def list (disk : Disk) (path : Path) : Except Fault (List (Name × Bool)) := do
  let place ← disk.resolve path
  match disk.entryAt? place, disk.refusal? place .read with
  | none, _ => .error .notFound
  | some (.file _), _ => .error .notADirectory
  | some .directory, some fault => .error fault
  | some .directory, none =>
    let shown := disk.entries.filterMap fun slot ↦
      match slot.1.getLast? with
      | some name =>
        if slot.1.dropLast = place then some (name, slot.2.isDirectory) else none
      | none => none
    .ok (shown.mergeSort fun first second ↦ (compare first.1 second.1).isLE)

def read (disk : Disk) (path : Path) : Except Fault (List UInt8) := do
  let place ← disk.resolve path
  match disk.entryAt? place, disk.refusal? place .read with
  | none, _ => .error .notFound
  | some _, some fault => .error fault
  | some .directory, none => .error .isADirectory
  | some (.file content), none => .ok content

/-- Puts an entry at a place, in place of what is there. -/
def set (disk : Disk) (place : Place) (entry : Entry) : Disk :=
  if disk.entries.any (·.1 == place) then
    { disk with entries := disk.entries.map fun slot ↦
        if slot.1 = place then (place, entry) else slot }
  else { disk with entries := disk.entries ++ [(place, entry)] }

/-- Replaces the content of a file, unless writing it is refused. No more octets than the limit are
written; if there are more, those up to the limit stay and the write fails. -/
def overwrite (disk : Disk) (limit : Option Nat) (path : Path) (content : List UInt8) :
    Disk × Except Fault Unit :=
  match disk.resolve path with
  | .error fault => (disk, .error fault)
  | .ok place =>
    match disk.entryAt? place, disk.refusal? place .write with
    | none, _ => (disk, .error .notFound)
    | some .directory, _ => (disk, .error .isADirectory)
    | some (.file _), some fault => (disk, .error fault)
    | some (.file _), none =>
      match limit with
      | none => (disk.set place (.file content), .ok ())
      | some n =>
        (disk.set place (.file (content.take n)),
          if n < content.length then .error .fileTooLarge else .ok ())

/-- How many names lead to the deepest place. -/
def depth (disk : Disk) : Nat :=
  disk.entries.foldl (fun deepest slot ↦ max deepest slot.1.length) 0

/-- The place that a plain relative path names, there or not. -/
def placeOf (disk : Disk) (path : Path) : Place :=
  disk.here ++ path.pieces.filter fun piece ↦ piece ≠ [] ∧ piece ≠ ['.']

/-- Makes a directory at a place unless something is there. -/
def addDirectory (disk : Disk) (place : Place) : Disk :=
  if (disk.entryAt? place).isSome then disk else disk.set place .directory

/-- Makes a place and all that it lies in directories where nothing is yet. -/
def makeDirectory (disk : Disk) (place : Place) : Disk :=
  ((List.range (place.length + 1)).map place.take).foldl addDirectory disk

def putFile (disk : Disk) (place : Place) (content : List UInt8) : Disk :=
  (disk.makeDirectory place.dropLast).set place (.file content)

/-- The disk without what is at a place, and without what was refused of it. -/
def remove (disk : Disk) (place : Place) : Disk :=
  { disk with
    entries := disk.entries.filter (·.1 ≠ place)
    refusals := disk.refusals.filter (·.1.1 ≠ place) }

/-- The disk with an access to a place refused. -/
def refuse (disk : Disk) (place : Place) (access : Access) (fault : Fault) : Disk :=
  { disk with refusals := ((place, access), fault) :: disk.refusals }

def empty (here : Place) : Disk :=
  ({ here := here } : Disk).makeDirectory here

/-- Every file below the working directory whose path the system accepts, by that path. -/
def files (disk : Disk) : List (Path × List UInt8) :=
  let named := disk.entries.filterMap fun slot ↦
    match slot.2, disk.here.isPrefixOf slot.1 with
    | .file content, true =>
      some (['/'].intercalate (slot.1.drop disk.here.length), content)
    | _, _ => none
  (named.filter fun file ↦ Text.octetCount file.1 ≤ longestPath).mergeSort
    fun first second ↦ (compare first.1 second.1).isLE

end Disk

end LeafLayout
