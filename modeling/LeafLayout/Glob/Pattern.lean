import LeafLayout.Disk.Path

/-!
Glob patterns. A question mark stands for one character, an asterisk for any run of them, a set in
brackets for one character in it or, after an exclamation mark, outside it, and a component of two
asterisks for any depth of directories. A pattern is checked as a whole and then once more
component by component, since a set may not hold a slash. Whether a name matches is found out from
the last token to the first, for all tails of the name at once.
-/

set_option autoImplicit false

namespace LeafLayout.Glob

inductive SyntaxFault where
  | tooManyAsterisks
  | depthInsideComponent
  | badSet
deriving DecidableEq, Repr

/-- A fault and the character it was noticed at, counted from zero. -/
structure SyntaxError where
  position : Nat
  fault : SyntaxFault
deriving DecidableEq, Repr

def SyntaxFault.message : SyntaxFault → String
  | .tooManyAsterisks => "wildcards are either regular `*` or recursive `**`"
  | .depthInsideComponent => "recursive wildcards must form a single path component"
  | .badSet => "invalid range pattern"

def SyntaxError.message (error : SyntaxError) : String :=
  "Pattern syntax error near position " ++ toString error.position ++ ": " ++ error.fault.message

inductive Member where
  | one (c : Char)
  | span (first last : Char)
deriving DecidableEq, Repr

def Member.has : Member → Char → Bool
  | .one d, c => c == d
  | .span first last, c => first ≤ c && c ≤ last

/-- Three characters with a hyphen in the middle are a span, read from the left. -/
def Member.listOf : List Char → List Member
  | first :: '-' :: last :: rest => .span first last :: listOf rest
  | c :: rest => .one c :: listOf rest
  | [] => []

inductive Token where
  | exactly (c : Char)
  | anyOne
  | anyRun
  | anyDepth
  | oneOf (members : List Member)
  | noneOf (members : List Member)
deriving DecidableEq, Repr

/-- A set whose closing bracket has not come yet, with its characters so far, the last one first. -/
structure OpenSet where
  position : Nat
  negated : Bool
  reversed : List Char := []

def OpenSet.close (set : OpenSet) : Token :=
  let members := Member.listOf set.reversed.reverse
  if set.negated then .noneOf members else .oneOf members

/-- Reads tokens, at a position and after a character of the pattern. The first character of a set
never closes it. -/
def Token.listFrom : Option OpenSet → Nat → Option Char → List Char →
    Except SyntaxError (List Token)
  | some set, _, _, [] => .error ⟨set.position, .badSet⟩
  | some set, position, _, c :: rest =>
    if c = ']' ∧ set.reversed ≠ [] then
      (listFrom none (position + 1) (some c) rest).map (set.close :: ·)
    else listFrom (some { set with reversed := c :: set.reversed }) (position + 1) (some c) rest
  | none, _, _, [] => .ok []
  | none, position, _, '?' :: rest =>
    (listFrom none (position + 1) (some '?') rest).map (.anyOne :: ·)
  | none, position, _, '*' :: '*' :: '*' :: _ => .error ⟨position + 2, .tooManyAsterisks⟩
  | none, position, previous, '*' :: '*' :: rest =>
    if previous.all (· == '/') then
      match rest with
      | [] => .ok [.anyDepth]
      | '/' :: more => (listFrom none (position + 3) (some '/') more).map (.anyDepth :: ·)
      | _ => .error ⟨position + 2, .depthInsideComponent⟩
    else .error ⟨position - 1, .depthInsideComponent⟩
  | none, position, _, '*' :: rest =>
    (listFrom none (position + 1) (some '*') rest).map (.anyRun :: ·)
  | none, position, _, '[' :: '!' :: rest =>
    listFrom (some ⟨position, true, []⟩) (position + 2) (some '!') rest
  | none, position, _, '[' :: rest =>
    listFrom (some ⟨position, false, []⟩) (position + 1) (some '[') rest
  | none, position, _, c :: rest =>
    (listFrom none (position + 1) (some c) rest).map (.exactly c :: ·)

def Token.read (text : List Char) : Except SyntaxError (List Token) :=
  Token.listFrom none 0 none text

def Token.plain? : Token → Option Char
  | .exactly c => some c
  | _ => none

/-- Whether a token that stands for one character may stand for this one. -/
def Token.accepts : Token → Char → Bool
  | .exactly d, c => c == d
  | .anyOne, _ => true
  | .oneOf members, c => members.any (·.has c)
  | .noneOf members, c => !(members.any (·.has c))
  | .anyRun, _ => false
  | .anyDepth, _ => false

/-- Whether a token stands for a run of characters, which may be empty. -/
def Token.isRun : Token → Bool
  | .anyRun => true
  | .anyDepth => true
  | _ => false

/-- What matches from each place on, once a run has been put before it. -/
def afterRun : List Bool → List Bool
  | [] => []
  | here :: later =>
    let further := afterRun later
    (here || further.headD false) :: further

/-- What matches from each place on, once a token for one character has been put before it. -/
def Token.afterOne (token : Token) : Name → List Bool → List Bool
  | c :: rest, _ :: later => (token.accepts c && later.headD false) :: afterOne token rest later
  | _, _ => [false]

/-- For each tail of a name, from the whole of it to nothing, whether the tokens match it. Every
token goes over the name once, whatever runs come before it. -/
def Token.tailMatches (name : Name) : List Token → List Bool
  | [] => List.replicate name.length false ++ [true]
  | token :: more =>
    if token.isRun then afterRun (tailMatches name more)
    else token.afterOne name (tailMatches name more)

def Token.listMatches (tokens : List Token) (name : Name) : Bool :=
  (tailMatches name tokens).headD false

namespace Token

theorem tailMatches_nil (tokens : List Token) :
    tailMatches [] tokens = [listMatches tokens []] := by
  suffices h : ∃ first, tailMatches [] tokens = [first] by
    obtain ⟨first, h⟩ := h
    rw [listMatches, h, List.headD_cons]
  induction tokens with
  | nil => exact ⟨true, rfl⟩
  | cons token more ih =>
    obtain ⟨first, ih⟩ := ih
    cases hrun : token.isRun with
    | true => simp [tailMatches, hrun, ih, afterRun]
    | false => simp [tailMatches, hrun, afterOne]

theorem tailMatches_cons (c : Char) (name : Name) (tokens : List Token) :
    tailMatches (c :: name) tokens = listMatches tokens (c :: name) :: tailMatches name tokens := by
  suffices h : ∃ first, tailMatches (c :: name) tokens = first :: tailMatches name tokens by
    obtain ⟨first, h⟩ := h
    rw [listMatches, h, List.headD_cons]
  induction tokens with
  | nil => exact ⟨false, by simp [tailMatches, List.replicate_succ]⟩
  | cons token more ih =>
    obtain ⟨first, ih⟩ := ih
    cases hrun : token.isRun with
    | true => simp [tailMatches, hrun, ih, afterRun]
    | false => simp [tailMatches, hrun, ih, afterOne]

theorem listMatches_nil (name : Name) : listMatches [] name = name.isEmpty := by
  cases name <;> simp [listMatches, tailMatches, List.replicate_succ]

theorem listMatches_run_nil {token : Token} (hrun : token.isRun = true) (more : List Token) :
    listMatches (token :: more) [] = listMatches more [] := by
  rw [listMatches, tailMatches, if_pos hrun, tailMatches_nil, afterRun]
  simp [afterRun]

/-- A run stands for nothing here, or for one more character. -/
theorem listMatches_run_cons {token : Token} (hrun : token.isRun = true) (more : List Token)
    (c : Char) (rest : Name) :
    listMatches (token :: more) (c :: rest) =
      (listMatches more (c :: rest) || listMatches (token :: more) rest) := by
  rw [listMatches, tailMatches, if_pos hrun, tailMatches_cons, afterRun, List.headD_cons]
  rw [listMatches.eq_def (token :: more) rest, tailMatches, if_pos hrun]

theorem listMatches_one_nil {token : Token} (hone : token.isRun = false) (more : List Token) :
    listMatches (token :: more) [] = false := by
  simp [listMatches, tailMatches, hone, afterOne]

theorem listMatches_one_cons {token : Token} (hone : token.isRun = false) (more : List Token)
    (c : Char) (rest : Name) :
    listMatches (token :: more) (c :: rest) = (token.accepts c && listMatches more rest) := by
  rw [listMatches, tailMatches, if_neg (by simp [hone]), tailMatches_cons, afterOne,
    List.headD_cons, listMatches.eq_def more rest]

end Token

/-- A component without wildcards is looked up and need not be listed. -/
inductive Component where
  | anyDepth
  | plain (name : Name)
  | wild (tokens : List Token)
deriving DecidableEq, Repr

namespace Component

def ofTokens (tokens : List Token) : Component :=
  if tokens = [.anyDepth] then .anyDepth
  else
    match tokens.mapM Token.plain? with
    | some name => .plain name
    | none => .wild tokens

def accepts : Component → Name → Bool
  | .anyDepth, _ => true
  | .plain wanted, name => wanted == name
  | .wild tokens, name => Token.listMatches tokens name

/-- Any depth twice in a row is any depth. -/
def merge (components : List Component) : List Component :=
  components.foldr (fun component merged ↦
    match component, merged with
    | .anyDepth, .anyDepth :: _ => merged
    | _, _ => component :: merged) []

end Component

structure Pattern where
  absolute : Bool
  components : List Component
  directoriesOnly : Bool
deriving DecidableEq, Repr

namespace Pattern

/-- The pieces between slashes, where a slash at the end ends the last piece. -/
def piecesOf (body : List Char) : List Name :=
  let pieces := Path.pieces body
  if pieces.getLast? = some [] then pieces.dropLast else pieces

def read (text : List Char) : Except SyntaxError Pattern := do
  let _ ← Token.read text
  let absolute := Path.isAbsolute text
  let body := if absolute then text.drop 1 else text
  let components ← (piecesOf body).mapM fun piece ↦ do
    return Component.ofTokens (← Token.read piece)
  return {
    absolute
    components := if body.isEmpty then [.plain []] else Component.merge components
    directoriesOnly := text.getLast? == some '/' }

end Pattern

end LeafLayout.Glob
