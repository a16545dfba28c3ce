import LeafLayout.Markup.ElementName
import LeafLayout.Text.Blank
import LeafLayout.Text.Search

/-!
A leaf is an element whose content is plain text, not empty: an open tag, a region without a tag in
it, and a close tag that repeats the name. The close tag decides how much of what stands after the
opening bracket is the name, so long as a word ends or begins there; what is left of the open tag
is kept unread. Names are compared octet by octet.
-/

set_option autoImplicit false

namespace LeafLayout.Markup

open Text

structure Leaf where
  start : Nat
  stop : Nat
  name : List Char
  attributes : List Char
  region : List Char
deriving DecidableEq, Repr

namespace Leaf

/-- The leaf as it stands in its document. -/
def source (leaf : Leaf) : List Char :=
  '<' :: leaf.name ++ leaf.attributes ++ '>' :: leaf.region ++ '<' :: '/' :: leaf.name ++ ['>']

def text (leaf : Leaf) : List Char :=
  held leaf.region

end Leaf

/-- How many octets two texts have in common from the start. -/
def sharedOctets : List Char → List Char → Nat
  | c :: first, d :: second =>
    if c = d then c.utf8Size + sharedOctets first second
    else (((String.utf8EncodeChar c).zip (String.utf8EncodeChar d)).takeWhile
      fun pair ↦ pair.1 == pair.2).length
  | _, _ => 0

def octetAt? : Nat → List Char → Option UInt8
  | _, [] => none
  | n, c :: rest =>
    if n < c.utf8Size then (String.utf8EncodeChar c)[n]? else octetAt? (n - c.utf8Size) rest

/-- Whether exactly one of the characters next to a cut belongs to a word. -/
def isWordEdge (before after : List Char) : Bool :=
  before.getLast?.any belongsToWord != after.head?.any belongsToWord

/-- The octets of the name that the text after a close tag's slash shares with a name read in full,
provided the close tag ends there. -/
def agreedLength? (fullName closing : List Char) : Option Nat :=
  let n := sharedOctets closing fullName
  if n ≠ 0 ∧ octetAt? n closing = some '>'.toUInt8 then some n else none

/-- The leaf whose opening bracket is just before `inside`, whose open tag ends at `tagEnd` and
whose close tag begins at `closeTag`. -/
def leafBetween? (inside tagEnd closeTag : Cursor Char) : Option Leaf :=
  match closeTag.next.rest with
  | '/' :: closing => do
    if closeTag.offset = tagEnd.next.offset then none else
      let n ← agreedLength? (inside.rest.takeWhile belongsToName) closing
      let (name, nameEnd) ← inside.cutAt? (inside.offset + n)
      if isWordEdge name nameEnd.rest then
        let (attributes, _) ← nameEnd.cutAt? tagEnd.offset
        let (region, _) ← tagEnd.next.cutAt? closeTag.offset
        some {
          start := inside.offset - 1
          stop := closeTag.offset + 2 + n + 1
          name, attributes, region }
      else none
  | _ => none

end LeafLayout.Markup
