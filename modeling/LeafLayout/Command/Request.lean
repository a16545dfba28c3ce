import LeafLayout.Layout
import LeafLayout.Text.ControlSequence

/-!
What a command line asks for. Arguments are read from left to right; the value of the indent option
is only judged when the next option, path or the end comes, so that an option that is not known is
complained about first.
-/

set_option autoImplicit false

namespace LeafLayout.Command

inductive Switch where
  | keepBlanks
  | keepEnds
  | dryRun
  | verbose
deriving DecidableEq, Repr

inductive Flag where
  | indent
  | switch (which : Switch)
  | help
  | version
deriving DecidableEq, Repr

def Flag.names : List (String × Flag) :=
  [("indent", .indent), ("no-collapse", .switch .keepBlanks), ("no-trim", .switch .keepEnds),
   ("dry-run", .switch .dryRun), ("verbose", .switch .verbose), ("help", .help),
   ("version", .version)]

def Flag.ofName? (name : List Char) : Option Flag :=
  Flag.names.lookup (String.ofList name)

def Flag.ofLetter? : Char → Option Flag
  | 'v' => some (.switch .verbose)
  | 'h' => some .help
  | 'V' => some .version
  | _ => none

/-- A flag as it is called in messages, with its value if it takes one. -/
def Flag.display (flag : Flag) : String :=
  let name := (Flag.names.find? (·.2 == flag)).elim "" (·.1)
  "--" ++ name ++ if flag = .indent then " <STRING>" else ""

inductive UsageError where
  | unknownArgument (argument : List Char)
  | missingValue (flag : Flag)
  | repeated (flag : Flag)
  | unexpectedValue (value : List Char) (flag : Flag)
  | noPaths
deriving DecidableEq, Repr

/-- What a user wrote is repeated without control sequences. -/
def readBack (argument : List Char) : String :=
  String.ofList (Text.ControlSequence.clear argument)

def UsageError.message : UsageError → String
  | .unknownArgument argument => "error: unexpected argument '" ++ readBack argument ++ "' found"
  | .missingValue flag =>
    "error: a value is required for '" ++ flag.display ++ "' but none was supplied"
  | .repeated flag =>
    "error: the argument '" ++ flag.display ++ "' cannot be used multiple times"
  | .unexpectedValue value flag =>
    "error: unexpected value '" ++ readBack value ++ "' for '" ++ flag.display ++
      "' found; no more were expected"
  | .noPaths => "error: the following required arguments were not provided:"

structure Settings where
  style : Style
  dryRun : Bool
  verbose : Bool
  paths : List (List Char)
deriving DecidableEq, Repr

inductive Request where
  | help
  | version
  | run (settings : Settings)
deriving DecidableEq, Repr

/-- What has been read so far. An indent is pending from its option on until it is settled, first
without a value and then with one. -/
structure Draft where
  indent : Option (List Char) := none
  pending : Option (Option (List Char)) := none
  switches : List Switch := []
  paths : List (List Char) := []

namespace Draft

def settle (draft : Draft) : Except UsageError Draft :=
  match draft.pending with
  | none => .ok draft
  | some none => .error (.missingValue .indent)
  | some (some value) =>
    if draft.indent.isSome then .error (.repeated .indent)
    else .ok { draft with indent := some value, pending := none }

def addSwitch (draft : Draft) (switch : Switch) : Except UsageError Draft :=
  if draft.switches.contains switch then .error (.repeated (.switch switch))
  else .ok { draft with switches := switch :: draft.switches }

/-- The draft after a path or the value that an indent still wants. -/
def addOperand (draft : Draft) (operand : List Char) : Except UsageError Draft := do
  if draft.pending = some none then
    return { draft with pending := some (some operand) }
  else
    let draft ← draft.settle
    return { draft with paths := draft.paths ++ [operand] }

def finish (draft : Draft) : Except UsageError Request := do
  let draft ← draft.settle
  if draft.paths.isEmpty then .error .noPaths
  else
    let standard : Style := {}
    return .run {
      style := {
        indent := draft.indent.getD standard.indent
        squeeze := !(draft.switches.contains .keepBlanks)
        strip := !(draft.switches.contains .keepEnds) }
      dryRun := draft.switches.contains .dryRun
      verbose := draft.switches.contains .verbose
      paths := draft.paths }

/-- Either reading goes on or the request is known. -/
inductive Turn where
  | goOn (draft : Draft)
  | stop (request : Request)

/-- A flag that came without a value. -/
def takeFlag (draft : Draft) (flag : Flag) : Except UsageError Turn := do
  let draft ← draft.settle
  match flag with
  | .indent => return .goOn { draft with pending := some none }
  | .switch switch => return .goOn (← draft.addSwitch switch)
  | .help => return .stop .help
  | .version => return .stop .version

def takeLetters (draft : Draft) : List Char → Except UsageError Turn
  | [] => .ok (.goOn draft)
  | c :: rest =>
    match Flag.ofLetter? c with
    | none => .error (.unknownArgument ['-', c])
    | some flag =>
      match draft.takeFlag flag with
      | .ok (.goOn draft) => draft.takeLetters rest
      | other => other

/-- A long option, given by what follows its two hyphens. -/
def takeLong (draft : Draft) (body : List Char) : Except UsageError Turn := do
  let name := body.takeWhile (· ≠ '=')
  match Flag.ofName? name, body.drop name.length with
  | none, _ => .error (.unknownArgument ('-' :: '-' :: name))
  | some flag, [] => draft.takeFlag flag
  | some .indent, _ :: value =>
    let draft ← draft.settle
    return .goOn (← { draft with pending := some (some value) }.settle)
  | some flag, _ :: value => .error (.unexpectedValue value flag)

def readFrom (draft : Draft) : List (List Char) → Except UsageError Request
  | [] => draft.finish
  | argument :: more => do
    let turn ← match argument with
      | ['-', '-'] => return ← { draft with paths := draft.paths ++ more }.finish
      | '-' :: '-' :: body => draft.takeLong body
      | '-' :: c :: rest => draft.takeLetters (c :: rest)
      | operand => return ← (← draft.addOperand operand).readFrom more
    match turn with
    | .stop request => return request
    | .goOn draft => draft.readFrom more

end Draft

def Request.read (arguments : List (List Char)) : Except UsageError Request :=
  Draft.readFrom {} arguments

end LeafLayout.Command
