import LeafLayout.Batch
import LeafLayout.Text.Numeral
import LeafLayout.Text.Quoted
import LeafLayout.Text.RegularExpression

/-!
The log of a run. Every event has a level, some fields and a line; a filter says up to which level
events are shown, for all of them or for those whose target begins in some way or that have some
field, and of all that is said about an event the most special decides.
-/

set_option autoImplicit false

namespace LeafLayout.Command

open Text

inductive Level where
  | error
  | warn
  | info
  | debug
  | trace
deriving DecidableEq, Repr

def Level.rank : Level → Nat
  | .error => 1
  | .warn => 2
  | .info => 3
  | .debug => 4
  | .trace => 5

/-- The level's name, five characters wide. -/
def Level.display : Level → String
  | .error => "ERROR"
  | .warn => " WARN"
  | .info => " INFO"
  | .debug => "DEBUG"
  | .trace => "TRACE"

/-- What all events of a run are filed under. -/
def logTarget : List Char :=
  "format_html::files".toList

/-- Events under the target, and with the field if one is named, are shown up to a rank, and none
at rank zero. A directive on what happens in spans says nothing about a run, which has none. -/
structure Directive where
  target : List Char := []
  field : Option (List Char) := none
  inSpans : Bool := false
  rank : Nat := Level.trace.rank
deriving DecidableEq, Repr

def rankNames : List (String × Nat) :=
  [("off", 0), ("error", 1), ("warn", 2), ("info", 3), ("debug", 4), ("trace", 5)]

/-- A rank by its level's name, in any case, or by its number. -/
def rank? (text : List Char) : Option Nat :=
  let digits := if text.head? = some '+' then text.drop 1 else text
  if digits ≠ [] ∧ digits.all Char.isDigit then
    let rank := digits.foldl (fun number digit ↦ 10 * number + (digit.toNat - '0'.toNat)) 0
    if rank ≤ Level.trace.rank then some rank else none
  else rankNames.lookup (String.ofList (text.map Char.toLower))

/-- The part of a text between two places, given in octets. -/
def part? (text : List Char) (first stop : Nat) : Option (List Char) := do
  let (_, rest) ← cut? first text
  let (part, _) ← cut? (stop - first) rest
  return part

namespace Directive

def opensWell (c : Char) : Bool :=
  isAlphanumeric c || c == '-' || c == ':' || c == '_'

/-- The directive with the level that the text names from an octet on; no name stands for all
levels. -/
def withLevelFrom? (directive : Directive) (text : List Char) (start : Nat) : Option Directive := do
  let (_, level) ← cut? start text
  if level.isEmpty then return directive
  else return { directive with rank := ← rank? level }

/-- Reads on behind a span: nothing or a level may follow. -/
def readEnd? (directive : Directive) (text : List Char) (place : Cursor Char) : Option Directive :=
  match place.rest with
  | [] => some directive
  | '=' :: _ => directive.withLevelFrom? text place.next.offset
  | _ => none

/-- The value that is looked for is a number, which may have a plus sign, or an expression for its
text. -/
def isValue : List Char → Bool
  | '+' :: rest => isNumeral rest
  | text => isRegularExpression text

/-- Reads a field that has a name and may have a value behind an equals sign, or a value and more
behind another one, which is ignored. Only spans are looked at for values. -/
def withField? (directive : Directive) (field : List Char) : Option Directive :=
  if field.isEmpty then none
  else
    match pieces '=' field with
    | _ :: value :: _ => if isValue value then some { directive with inSpans := true } else none
    | _ => some { directive with field := some field }

/-- Reads the inside of braces, a field, and on from there. -/
def readField? (directive : Directive) (text : List Char) (start : Cursor Char) :
    Option Directive := do
  let stop := start.pass (· ≠ '\x7d')
  let field ← part? text start.offset stop.offset
  match stop.rest with
  | '\x7d' :: ']' :: _ => do (← directive.withField? field).readEnd? text stop.next.next
  | _ => none

/-- Reads the inside of brackets, the name of a span or a field in braces or both, and on from
there. -/
def readSpan? (directive : Directive) (text : List Char) (start : Cursor Char) : Option Directive :=
  let stop := start.pass fun c ↦ c ≠ ']' && c ≠ '\x7b'
  match stop.rest with
  | ']' :: _ => { directive with inSpans := true }.readEnd? text stop.next
  | '\x7b' :: _ =>
    { directive with inSpans := start.offset < stop.offset }.readField? text stop.next
  | _ => none

/-- A level for all targets, or a target, a span in brackets or both, with a level or with none for
everything. The parts are found as if there were no blanks around the text, but they are cut out of
the text as it is. -/
def read? (text : List Char) : Option Directive := do
  let start := Cursor.start (strip text)
  let first ← start.rest.head?
  if first = '[' then readSpan? {} text start.next
  else if opensWell first then
    let stop := start.pass fun c ↦ c ≠ '=' && c ≠ '['
    let target ← part? text 0 stop.offset
    match stop.rest with
    | [] =>
      match rank? text with
      | some rank => some { rank }
      | none => some { target := text }
    | '[' :: _ => readSpan? { target } text stop.next
    | _ => withLevelFrom? { target } text stop.next.offset
  else none

/-- Whether a directive is about events with these fields under a target. -/
def concerns (directive : Directive) (target : List Char) (fields : List String) : Bool :=
  !directive.inSpans && directive.target.isPrefixOf target &&
    directive.field.all fun field ↦ fields.contains (String.ofList field)

/-- More special is the longer target, and under one target a field, the later in order first. -/
def compare (first second : Directive) : Ordering :=
  (Ord.compare (octetCount first.target) (octetCount second.target)).then
    (Ord.compare first.field second.field)

end Directive

abbrev Filter := List Directive

namespace Filter

/-- Reads directives between commas; none at all show errors only. -/
def read? (text : List Char) : Option Filter := do
  let directives ← ((pieces ',' text).filter (· ≠ [])).mapM Directive.read?
  return if directives.isEmpty then [{ rank := Level.error.rank }] else directives

def ofVerbosity (verbose : Bool) : Filter :=
  if verbose then [{ target := "format_html".toList, rank := Level.debug.rank }]
  else [{ rank := Level.warn.rank }]

/-- The filter that was asked for, or the usual one where none was or it cannot be read. -/
def choose (wanted : Option (List Char)) (verbose : Bool) : Filter :=
  (wanted.bind read?).getD (ofVerbosity verbose)

/-- Up to which rank events with these fields under a target are shown. Of two directives that are
equally special the later one counts. -/
def rankFor (filter : Filter) (target : List Char) (fields : List String) : Nat :=
  let deciding := (filter.filter (·.concerns target fields)).foldl
    (fun (best : Option Directive) directive ↦
      if best.all fun other ↦ (other.compare directive).isLE then some directive else best) none
  deciding.elim 0 (·.rank)

def shows (filter : Filter) (level : Level) (fields : List String) : Bool :=
  level.rank ≤ filter.rankFor logTarget fields

end Filter

/-- Controls that a terminal would obey are written out in messages. -/
def tamedChar (c : Char) : List Char :=
  if c = '\x1b' then "\\x1b".toList
  else if c = '\x07' then "\\x07".toList
  else if c = '\x08' then "\\x08".toList
  else if c = '\x0c' then "\\x0c".toList
  else if c = '\x7f' then "\\x7f".toList
  else if 0x80 ≤ c.toNat ∧ c.toNat ≤ 0x9F then codePointEscape c
  else [c]

def eventLevel : Event → Level
  | .changed _ _ => .debug
  | .unchanged _ => .debug
  | .skipped _ => .debug
  | .noMatch _ => .debug
  | .unreadable _ _ => .warn
  | .failed _ => .warn
  | .done _ => .info

def eventFields : Event → List String
  | .changed _ _ => ["message", "path", "dry_run"]
  | .unchanged _ => ["message", "path"]
  | .skipped _ => ["message", "path"]
  | .noMatch _ => ["message", "pattern"]
  | .unreadable _ _ => ["message", "path", "error"]
  | .failed _ => ["message"]
  | .done _ => ["message", "changed", "unchanged", "skipped", "failed"]

def eventText : Event → List Char
  | .changed path dryRun =>
    "reflowed path=".toList ++ path ++ " dry_run=".toList ++ (toString dryRun).toList
  | .unchanged path => "unchanged path=".toList ++ path
  | .skipped path => "skipped path=".toList ++ path
  | .noMatch pattern => "no matches pattern=".toList ++ quoted pattern
  | .unreadable path fault =>
    "skipping unreadable entry path=".toList ++ path ++ (" error=" ++ fault.message).toList
  | .failed failure => failure.message.toList.flatMap tamedChar
  | .done tally =>
    ("done changed=" ++ toString tally.changed.length ++ " unchanged=" ++
      toString tally.unchanged ++ " skipped=" ++ toString tally.skipped ++ " failed=" ++
      toString tally.failed).toList

def logLine (event : Event) : List Char :=
  (eventLevel event).display.toList ++ ' ' :: eventText event ++ ['\n']

def log (filter : Filter) (events : List Event) : List Char :=
  (events.filter fun event ↦ filter.shows (eventLevel event) (eventFields event)).flatMap logLine

end LeafLayout.Command
