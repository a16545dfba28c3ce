/-!
White space, and what is done to it: cut off at both ends of a text, squeezed so that every run
of it becomes one space, or set aside around the part of an element's content that is held on to.
-/

set_option autoImplicit false

namespace LeafLayout.Text

/-- The characters with the property White_Space. -/
def isBlank (c : Char) : Bool :=
  let n := c.toNat
  (0x09 ≤ n && n ≤ 0x0D) || n == 0x20 || n == 0x85 || n == 0xA0 || n == 0x1680 ||
    (0x2000 ≤ n && n ≤ 0x200A) || n == 0x2028 || n == 0x2029 || n == 0x202F || n == 0x205F ||
    n == 0x3000

def stripLeft (text : List Char) : List Char :=
  text.dropWhile isBlank

def stripRight (text : List Char) : List Char :=
  (text.reverse.dropWhile isBlank).reverse

def strip (text : List Char) : List Char :=
  stripRight (stripLeft text)

/-- Squeezes a text of which the character just before is blank or not, as the flag says. -/
def squeezeAfter : Bool → List Char → List Char
  | _, [] => []
  | afterBlank, c :: rest =>
    if isBlank c then
      if afterBlank then squeezeAfter true rest else ' ' :: squeezeAfter true rest
    else c :: squeezeAfter false rest

/-- Every run of blanks becomes one space. -/
def squeeze (text : List Char) : List Char :=
  squeezeAfter false text

/-- The part of a region that is held on to: what lies between its outer blanks, and of a region
that is blank throughout the last character, so that a region with something in it never holds
nothing. -/
def held (region : List Char) : List Char :=
  let core := strip region
  if core.isEmpty then region.getLast?.toList else core

theorem isBlank_space : isBlank ' ' = true := rfl

theorem isBlank_newline : isBlank '\n' = true := rfl

theorem squeezeAfter_of_blank {c : Char} (rest : List Char) (h : isBlank c = true) :
    squeezeAfter true (c :: rest) = squeezeAfter true rest := by
  simp [squeezeAfter, h]

theorem squeezeAfter_of_not_blank {c : Char} (flag : Bool) (rest : List Char)
    (h : isBlank c = false) : squeezeAfter flag (c :: rest) = c :: squeezeAfter false rest := by
  simp [squeezeAfter, h]

end LeafLayout.Text
