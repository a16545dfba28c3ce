import LeafLayout.Text.Utf8

/-!
Control sequences, which a terminal obeys instead of showing them. An escape character opens one
and another one breaks it off; what kind it is, and so where it ends, depends on the character
after. White space in the middle of one is shown, with what follows it, until a control takes the
sequence up again where it was left. A text is cleared of the sequences, and of all controls
outside them but those that space out text.
-/

set_option autoImplicit false

namespace LeafLayout.Text.ControlSequence

/-- What a text is at a place in it. Sequences with parameters end at a letter or the like,
commands at a bell, and messages, which have a header of their own or none, at a terminator. -/
inductive Reading where
  | text
  | escape
  | shortSequence
  | sequence
  | command
  | header
  | headerParameters
  | headerEnd
  | message
deriving DecidableEq, Repr

/-- Where a terminal is in a text: what it reads, and whether it has set that aside to show text. -/
structure Place where
  reading : Reading := .text
  aside : Bool := false
deriving DecidableEq, Repr

def isSpacing (c : Char) : Bool :=
  c = '\t' || c = '\n' || c = '\x0c' || c = '\r'

def isShown (c : Char) : Bool :=
  isSpacing c || (' ' ≤ c && c ≠ '\x7f')

/-- What the character after an escape character opens. -/
def Reading.ofOpener (c : Char) : Reading :=
  if c ≤ '/' then .shortSequence
  else if c = '[' then .sequence
  else if c = ']' then .command
  else if c = 'P' then .header
  else if c = 'X' ∨ c = '^' ∨ c = '_' then .message
  else .text

/-- The parameters of a header, if it has any, come before its last part, and the signs of a
private one before all of them. -/
def Reading.afterHeader (reading : Reading) (c : Char) : Reading :=
  if c ≤ '/' then .headerEnd
  else if '@' ≤ c ∨ reading = .headerEnd ∨ (reading = .headerParameters ∧ '<' ≤ c) then .message
  else .headerParameters

/-- The terminator of a message is a single octet, also in the middle of a character. -/
def endsMessage (c : Char) : Bool :=
  (Utf8.encode [c]).contains 0x9C

/-- What a text is after a character that is part of a sequence and does not open or cancel one. -/
def Reading.after (reading : Reading) (c : Char) : Reading :=
  let plain := ' ' ≤ c && c ≤ '~'
  match reading with
  | .text => .text
  | .escape => if plain then .ofOpener c else .escape
  | .shortSequence => if plain && '0' ≤ c then .text else .shortSequence
  | .sequence => if plain && '@' ≤ c then .text else .sequence
  | .command => if c = '\x07' then .text else .command
  | .message => if endsMessage c then .text else .message
  | _ => if plain then reading.afterHeader c else reading

/-- In the short kinds of sequences white space is shown all the same. -/
def Reading.letsThrough : Reading → Char → Bool
  | .escape, c => isSpacing c
  | .shortSequence, c => isSpacing c
  | .sequence, c => isSpacing c
  | _, _ => false

/-- Where the terminal is after one more character, and what it shows of it. A sequence that has
been set aside is forgotten at a character that is not ASCII, and taken up again at a control. -/
def step (place : Place) (c : Char) : Place × List Char :=
  if c = '\x1b' then ({ reading := .escape }, [])
  else if c = '\x18' ∨ c = '\x1a' then ({}, [])
  else if place.aside ∨ place.reading = .text then
    if isShown c then (if c < '\x80' then place else {}, [c])
    else ({ place with aside := false }, [])
  else if place.reading.letsThrough c then ({ place with aside := true }, [c])
  else ({ place with reading := place.reading.after c }, [])

def clearFrom : Place → List Char → List Char
  | _, [] => []
  | place, c :: rest => (step place c).2 ++ clearFrom (step place c).1 rest

/-- What is left of a text without controls and control sequences. -/
def clear (text : List Char) : List Char :=
  clearFrom {} text

theorem step_text_of_shown {c : Char} (h : isShown c = true) : step {} c = ({}, [c]) := by
  have hescape : c ≠ '\x1b' := by
    rintro rfl
    simp [isShown, isSpacing] at h
  have hcancel : ¬(c = '\x18' ∨ c = '\x1a') := by
    rintro (rfl | rfl) <;> simp [isShown, isSpacing] at h
  rw [step, if_neg hescape, if_neg hcancel, if_pos (Or.inr rfl), if_pos h, ite_self]

theorem clear_of_shown {text : List Char} (hshown : ∀ c ∈ text, isShown c = true) :
    clear text = text := by
  unfold clear
  induction text with
  | nil => rfl
  | cons c rest ih =>
    rw [clearFrom, step_text_of_shown (hshown c (by simp)), ih fun d hd ↦ hshown d (by simp [hd])]
    rfl

end LeafLayout.Text.ControlSequence
