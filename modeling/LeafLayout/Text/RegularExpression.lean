import LeafLayout.Text.Alphanumeric
import LeafLayout.Text.Blank

/-!
Which texts are regular expressions. A text is read from the left under flags that it may change on
its way, and what is found out about it is how deep it is nested, which is limited. What could match
octets that are not text is refused, and so is what would need tables of all scripts: the cases of
characters, and digits, blanks and word characters as kinds. The texts asked about have no closing
brace, so nothing that is written in braces is ever complete.
-/

set_option autoImplicit false

namespace LeafLayout.Text.RegularExpression

/-- Whether case is ignored, whether characters of all scripts are meant or only those of ASCII,
and whether blanks and comments are ignored. The other flags make no difference to what is read. -/
structure Flags where
  anyCase : Bool := false
  allScripts : Bool := true
  spaced : Bool := false
deriving DecidableEq, Repr

namespace Flags

def set? (on : Bool) (flags : Flags) (letter : Char) : Option Flags :=
  if letter = 'i' then some { flags with anyCase := on }
  else if letter = 'u' then some { flags with allScripts := on }
  else if letter = 'x' then some { flags with spaced := on }
  else if letter = 'm' ∨ letter = 's' ∨ letter = 'R' ∨ letter = 'U' then some flags
  else none

/-- Letters raise flags, and behind a hyphen they lower them. -/
def change? (flags : Flags) (letters : List Char) : Option Flags :=
  if letters.Nodup ∧ letters.getLast? ≠ some '-' then do
    let raised ← (letters.takeWhile (· ≠ '-')).foldlM (set? true) flags
    ((letters.dropWhile (· ≠ '-')).drop 1).foldlM (set? false) raised
  else none

/-- Drops blanks and comments, which run from a number sign to the end of the line; the text may
begin inside of one. -/
def dropIgnored : Bool → List Char → List Char
  | _, [] => []
  | true, c :: rest => dropIgnored (c ≠ '\n') rest
  | false, c :: rest =>
    if isBlank c then dropIgnored false rest
    else if c = '#' then dropIgnored true rest
    else c :: rest

def skip (flags : Flags) (text : List Char) : List Char :=
  if flags.spaced then dropIgnored false text else text

/-- The cases of a character are known for ASCII only. -/
def hasCharacters (flags : Flags) : Bool :=
  !(flags.anyCase && flags.allScripts)

/-- In a class for ASCII another character would stand for octets. -/
def hasInClass (flags : Flags) (c : Char) : Bool :=
  flags.hasCharacters && (flags.allScripts || c < '\x80')

end Flags

/-- The smallest parts: characters, sets of them that have a sign, and places between them. -/
inductive Atom where
  | character (c : Char)
  | set
  | place
deriving DecidableEq, Repr

def hexDigit? (c : Char) : Option Nat :=
  if c.isDigit then some (c.toNat - '0'.toNat)
  else if 'a' ≤ c ∧ c ≤ 'f' then some (c.toNat - 'a'.toNat + 10)
  else if 'A' ≤ c ∧ c ≤ 'F' then some (c.toNat - 'A'.toNat + 10)
  else none

/-- Reads so many more digits of a number. -/
def hexNumber? (flags : Flags) : Nat → Nat → List Char → Option (Nat × List Char)
  | 0, number, text => some (number, text)
  | count + 1, number, text =>
    match flags.skip text with
    | [] => none
    | c :: rest => do hexNumber? flags count (16 * number + (← hexDigit? c)) rest

def hexCharacter? (flags : Flags) (count : Nat) (text : List Char) :
    Option (Char × List Char) := do
  let (number, rest) ← hexNumber? flags count 0 text
  if number.isValidChar then some (Char.ofNat number, rest) else none

def controls : List (Char × Char) :=
  [('a', '\x07'), ('f', '\x0c'), ('t', '\t'), ('n', '\n'), ('r', '\r'), ('v', '\x0b')]

/-- Reads what follows a backslash: digits of a character's number, of which two give an octet, a
letter that has a meaning, or a sign that is to have none. -/
def Atom.escaped? (flags : Flags) : List Char → Option (Atom × List Char)
  | [] => none
  | c :: rest =>
    if c = 'x' then do
      let (c, rest) ← hexCharacter? flags 2 rest
      if flags.allScripts || c < '\x80' then some (.character c, rest) else none
    else if c = 'u' then (hexCharacter? flags 4 rest).map fun (c, rest) ↦ (.character c, rest)
    else if c = 'U' then (hexCharacter? flags 8 rest).map fun (c, rest) ↦ (.character c, rest)
    else if c = 'A' ∨ c = 'z' then some (.place, rest)
    else if c ∈ ['b', 'B', '<', '>'] then if flags.allScripts then none else some (.place, rest)
    else if c ∈ ['d', 's', 'w'] then if flags.allScripts then none else some (.set, rest)
    else match controls.lookup c with
      | some control => some (.character control, rest)
      | none => if c < '\x80' ∧ !c.isAlphanum then some (.character c, rest) else none

def Atom.read? (flags : Flags) : List Char → Option (Atom × List Char)
  | [] => none
  | '\\' :: rest => escaped? flags rest
  | '^' :: rest => some (.place, rest)
  | '$' :: rest => some (.place, rest)
  | '.' :: rest => if flags.allScripts then some (.set, rest) else none
  | c :: rest => some (.character c, rest)

/-- In a class only a backslash keeps a character from standing for itself. -/
def Atom.readInClass? (flags : Flags) : List Char → Option (Atom × List Char)
  | [] => none
  | '\\' :: rest => escaped? flags rest
  | c :: rest => some (.character c, rest)

/-- How deep things side by side are nested: where there are several, a level more than the deepest
of them. -/
def together : List Nat → Nat
  | [] => 0
  | [depth] => depth
  | depths => depths.foldl max 0 + 1

namespace Class

/-- What has been read of a class: the depth of what stands before its last operator, if it has
one, and of the items since. -/
structure Part where
  before : Option Nat := none
  items : List Nat := []
deriving DecidableEq, Repr

namespace Part

def depth (part : Part) : Nat :=
  match part.before with
  | none => together part.items
  | some before => max before (together part.items) + 1

def add (part : Part) (depth : Nat) : Part :=
  { part with items := depth :: part.items }

def operate (part : Part) : Part :=
  { before := some part.depth }

end Part

def names : List String :=
  ["alnum", "alpha", "ascii", "blank", "cntrl", "digit", "graph", "lower", "print", "punct",
   "space", "upper", "word", "xdigit"]

/-- Whether the class with a name that stands behind a bracket is negated, and what follows it. -/
def named? : List Char → Option (Bool × List Char)
  | ':' :: text =>
    let negated := text.head? = some '^'
    let text := if negated then text.drop 1 else text
    match text.dropWhile (· ≠ ':') with
    | ':' :: ']' :: rest =>
      if names.contains (String.ofList (text.takeWhile (· ≠ ':'))) then some (negated, rest)
      else none
    | _ => none
  | _ => none

/-- Past the opening of a class and the sign that negates it. -/
def body? (flags : Flags) (text : List Char) : Option (List Char) :=
  match flags.skip text with
  | '^' :: rest => if flags.allScripts then some rest else none
  | text => some text

/-- Past an item that is a character, a set or a range. A hyphen before another one or before the
closing bracket makes no range. -/
def pastItem? (flags : Flags) (text : List Char) : Option (List Char) := do
  let (first, rest) ← Atom.readInClass? flags text
  match first with
  | .place => none
  | .set =>
    match flags.skip rest with
    | '-' :: next =>
      let next := (flags.skip next).head?
      if next = some ']' ∨ next = some '-' then some rest else none
    | _ => some rest
  | .character c =>
    if flags.hasInClass c then
      match flags.skip rest with
      | '-' :: next =>
        let next := flags.skip next
        if next.head? = some ']' ∨ next.head? = some '-' then some rest
        else
          match ← Atom.readInClass? flags next with
          | (.character last, rest) =>
            if flags.hasInClass last ∧ c ≤ last then some rest else none
          | _ => none
      | _ => some rest
    else none

/-- Reads a class on to its end. At its start hyphens stand for themselves, and so does a closing
bracket that comes first. -/
def depthFrom? : Nat → Flags → Bool → Part → List Char → Option (Nat × List Char)
  | 0, _, _, _, _ => none
  | fuel + 1, flags, atStart, part, text =>
    match flags.skip text with
    | [] => none
    | c :: rest =>
      if atStart ∧ (c = '-' ∨ (c = ']' ∧ part.items = [])) then
        if flags.hasInClass c then depthFrom? fuel flags (c = '-') (part.add 0) rest else none
      else if c = ']' then some (part.depth + 1, rest)
      else if c = '[' then
        match named? rest with
        | some (negated, rest) =>
          if flags.hasCharacters && (flags.allScripts || !negated) then
            depthFrom? fuel flags false (part.add 0) rest
          else none
        | none => do
          let (depth, rest) ← depthFrom? fuel flags true {} (← body? flags rest)
          depthFrom? fuel flags false (part.add depth) rest
      else if (c = '&' ∨ c = '-' ∨ c = '~') ∧ rest.head? = some c then
        depthFrom? fuel flags false part.operate (rest.drop 1)
      else do depthFrom? fuel flags false (part.add 0) (← pastItem? flags (c :: rest))

/-- The depth of the class that a bracket has opened. -/
def depth? (flags : Flags) (text : List Char) : Option (Nat × List Char) := do
  depthFrom? (text.length + 1) flags true {} (← body? flags text)

end Class

/-- What a parenthesis opens: a directive about flags, or a group with flags of its own that may
have a name. -/
inductive Opening where
  | directive (flags : Flags)
  | group (flags : Flags) (name : Option (List Char))
deriving DecidableEq, Repr

def isGroupName : List Char → Bool
  | [] => false
  | c :: rest =>
    (isAlphabetic c || c = '_') &&
      rest.all fun c ↦ isAlphanumeric c || c = '_' || c = '.' || c = '[' || c = ']'

namespace Opening

def named? (flags : Flags) (text : List Char) : Option (Opening × List Char) :=
  let name := text.takeWhile (· ≠ '>')
  match text.dropWhile (· ≠ '>') with
  | '>' :: rest => if isGroupName name then some (.group flags name, rest) else none
  | _ => none

def flagged? (flags : Flags) (text : List Char) : Option (Opening × List Char) := do
  let ends := fun c ↦ c = ':' ∨ c = ')'
  let letters := text.takeWhile (¬ ends ·)
  let changed ← flags.change? letters
  match text.dropWhile (¬ ends ·) with
  | ':' :: rest => some (.group changed none, rest)
  | ')' :: rest => if letters = [] then none else some (.directive changed, rest)
  | _ => none

def read? (flags : Flags) (text : List Char) : Option (Opening × List Char) :=
  match flags.skip text with
  | '?' :: 'P' :: '<' :: rest => named? flags rest
  | '?' :: '<' :: rest => named? flags rest
  | '?' :: rest => flagged? flags rest
  | rest => some (.group flags none, rest)

end Opening

/-- What has been read of a group: the depths of its finished branches, and of the parts of the
last one, the latest first, with whether they can be repeated. -/
structure Branches where
  finished : List Nat := []
  parts : List (Nat × Bool) := []
deriving DecidableEq, Repr

namespace Branches

def finish (branches : Branches) : Branches :=
  { finished := together (branches.parts.map Prod.fst) :: branches.finished }

def depth (branches : Branches) : Nat :=
  together branches.finish.finished

def add (branches : Branches) (depth : Nat) : Branches :=
  { branches with parts := (depth, true) :: branches.parts }

def addDirective (branches : Branches) : Branches :=
  { branches with parts := (0, false) :: branches.parts }

def repeat? (branches : Branches) : Option Branches :=
  match branches.parts with
  | (depth, true) :: parts => some { branches with parts := (depth + 1, true) :: parts }
  | _ => none

end Branches

/-- What is known of an expression up to a place: what has been read of the group there, which
flags hold and which names groups have. -/
structure Progress where
  branches : Branches := {}
  flags : Flags := {}
  names : List (List Char) := []
deriving DecidableEq, Repr

/-- Reads on to the end of the group, and stops before its closing parenthesis. -/
def Progress.toEnd? : Nat → Progress → List Char → Option (Progress × List Char)
  | 0, _, _ => none
  | fuel + 1, progress, text =>
    let { branches, flags, names } := progress
    match flags.skip text with
    | [] => some (progress, [])
    | ')' :: rest => some (progress, ')' :: rest)
    | '|' :: rest => toEnd? fuel { progress with branches := branches.finish } rest
    | '\x7b' :: _ => none
    | '[' :: rest => do
      let (depth, rest) ← Class.depth? flags rest
      toEnd? fuel { progress with branches := branches.add depth } rest
    | '(' :: rest => do
      match ← Opening.read? flags rest with
      | (.directive flags, rest) =>
        toEnd? fuel { progress with branches := branches.addDirective, flags } rest
      | (.group inside name, rest) =>
        if name.any names.contains then none
        else
          let (group, rest) ← toEnd? fuel ⟨{}, inside, name.toList ++ names⟩ rest
          match rest with
          | ')' :: rest =>
            toEnd? fuel ⟨branches.add (group.branches.depth + 1), flags, group.names⟩ rest
          | _ => none
    | c :: rest =>
      if c = '?' ∨ c = '*' ∨ c = '+' then do
        let branches ← branches.repeat?
        let rest := if rest.head? = some '?' then rest.drop 1 else rest
        toEnd? fuel { progress with branches } rest
      else do
        let (atom, rest) ← Atom.read? flags (c :: rest)
        match atom with
        | .character _ =>
          if flags.hasCharacters then toEnd? fuel { progress with branches := branches.add 0 } rest
          else none
        | _ => toEnd? fuel { progress with branches := branches.add 0 } rest

def depth? (text : List Char) : Option Nat :=
  match Progress.toEnd? (text.length + 1) {} text with
  | some (progress, []) => some progress.branches.depth
  | _ => none

def deepest : Nat := 250

end RegularExpression

def isRegularExpression (text : List Char) : Bool :=
  (RegularExpression.depth? text).any (· ≤ RegularExpression.deepest)

end LeafLayout.Text
