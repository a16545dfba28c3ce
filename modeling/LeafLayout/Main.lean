import LeafLayout.Command.Session

/-!
The program at work on a real disk. What the patterns can reach is read first, and what the system
refuses of it is found by trying; the session runs on that, and files that differ afterwards are
written back.
-/

set_option autoImplicit false

namespace LeafLayout.Program

open Command

/-- What was found on the real disk, and what of it the system refuses. -/
structure Found where
  entries : List (Place × Entry) := []
  refusals : List ((Place × Access) × Fault) := []

def Found.concat (all : List Found) : Found where
  entries := all.flatMap Found.entries
  refusals := all.flatMap Found.refusals

def faultOf : IO.Error → Fault
  | .permissionDenied _ number _ | .noFileOrDirectory _ number _ | .resourceExhausted _ number _
  | .invalidArgument _ number _ | .inappropriateType _ number _ | .hardwareFault number _
  | .resourceBusy number _ | .otherError number _ => .system number.toNat
  | error => .other (toString error)

def attempt {Result : Type} (action : IO Result) : IO (Except Fault Result) :=
  try
    return .ok (← action)
  catch error =>
    return .error (faultOf error)

/-- A page with its content. It is opened for writing too, which changes nothing in it. -/
def loadPage (path : String) (place : Place) : IO Found := do
  let real := (← IO.currentDir) / path
  let content ← attempt (IO.FS.readBinFile real)
  let opened ← attempt (IO.FS.Handle.mk real .append)
  let refused {Result : Type} (access : Access) : Except Fault Result →
      List ((Place × Access) × Fault)
    | .ok _ => []
    | .error fault => [((place, access), fault)]
  return {
    entries := [(place, .file (content.toOption.elim [] (·.toList)))]
    refusals := refused .read content ++ refused .write opened }

/-- The entry at a real path and all below it, down to so many levels. Only pages are read. -/
def load : Nat → String → Place → IO Found
  | levels, path, place => do
    let real := (← IO.currentDir) / path
    if ← real.isDir then
      let own : Found := { entries := [(place, .directory)] }
      match levels with
      | 0 => return own
      | levels + 1 =>
        match ← attempt real.readDir with
        | .error fault => return { own with refusals := [((place, .read), fault)] }
        | .ok children =>
          let below ← children.toList.mapM fun child ↦
            load levels (path ++ "/" ++ child.fileName) (place ++ [child.fileName.toList])
          return Found.concat (own :: below)
    else if ← real.pathExists then
      if Path.hasHtmlExtension path.toList then loadPage path place
      else return { entries := [(place, .file [])] }
    else return {}

/-- Follows names from a place, loading each directory on the way and, after the last name, all
that is below. -/
def loadAlong (levels : Nat) : String → Place → List Name → IO Found
  | path, place, [] => load levels path place
  | path, place, name :: more => do
    let passed ← load 0 path place
    let next := if name = ['.', '.'] then place.dropLast
      else if name = [] ∨ name = ['.'] then place else place ++ [name]
    let further ← loadAlong levels (path ++ "/" ++ String.ofList name) next more
    return Found.concat [passed, further]

def plainLead : List Glob.Component → List Name
  | .plain name :: more => name :: plainLead more
  | _ => []

/-- What a pattern can reach. -/
def loadFor (disk : Disk) (text : List Char) : IO Disk := do
  match Glob.Pattern.read text with
  | .error _ => return disk
  | .ok pattern =>
    let lead := plainLead pattern.components
    let levels := if pattern.components.contains .anyDepth then Disk.longestPath
      else pattern.components.length - lead.length
    let (path, place) := if pattern.absolute then ("/", []) else (".", disk.here)
    let loaded ← loadAlong levels path place lead
    let fresh := loaded.entries.filter fun slot ↦ slot.1 ≠ [] ∧ (disk.entryAt? slot.1).isNone
    return { disk with
      entries := disk.entries ++ fresh
      refusals := disk.refusals ++ loaded.refusals }

def patternsOf (arguments : List (List Char)) : List (List Char) :=
  match Request.read arguments with
  | .ok (.run settings) => settings.paths
  | _ => []

def writeBack (before after : Disk) : IO Unit :=
  after.entries.forM fun slot ↦ do
    match slot.2 with
    | .directory => return
    | .file content =>
      if before.entryAt? slot.1 ≠ some slot.2 then
        IO.FS.writeBinFile (String.ofList (slot.1.flatMap ('/' :: ·)))
          (ByteArray.mk content.toArray)

def run (arguments : List (List Char)) : IO UInt32 := do
  let here := (Path.pieces (← IO.currentDir).toString.toList).filter (· ≠ [])
  let disk ← (patternsOf arguments).foldlM loadFor (Disk.empty here)
  let filter ← IO.getEnv "RUST_LOG"
  let session := Session.run (filter.map String.toList) arguments disk
  writeBack disk session.disk
  (← IO.getStdout).putStr (String.ofList session.output)
  (← IO.getStderr).putStr (String.ofList session.errors)
  return UInt32.ofNat session.status

end LeafLayout.Program

def main (arguments : List String) : IO UInt32 :=
  LeafLayout.Program.run (arguments.map String.toList)
