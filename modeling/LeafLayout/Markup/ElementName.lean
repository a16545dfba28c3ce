import LeafLayout.Text.Alphanumeric

/-!
Element names: the characters they are made of, and the two lists of names whose elements are left
alone, those that never have content and those whose content is not plain text. Letter case does
not count in either list.
-/

set_option autoImplicit false

namespace LeafLayout.Markup

open Text

def beginsName (c : Char) : Bool :=
  c.isAlpha

def belongsToWord (c : Char) : Bool :=
  isAlphanumeric c || c == '_'

def belongsToName (c : Char) : Bool :=
  belongsToWord c || c == ':' || c == '-'

def contentlessNames : List (List Char) :=
  ["area", "base", "br", "col", "embed", "hr", "img", "input", "link", "meta", "param", "source",
    "track", "wbr"].map String.toList

def verbatimNames : List (List Char) :=
  ["script", "style", "pre", "textarea", "template", "svg", "math", "noscript",
    "code"].map String.toList

/-- The letters that become an ASCII letter in lower case do so here, and no other character
changes; the Kelvin sign is the only one of them outside ASCII. -/
def plainLower (c : Char) : Char :=
  if c == '\u212A' then 'k' else c.toLower

def isContentless (name : List Char) : Bool :=
  contentlessNames.contains (name.map plainLower)

def isVerbatim (name : List Char) : Bool :=
  verbatimNames.contains (name.map plainLower)

end LeafLayout.Markup
