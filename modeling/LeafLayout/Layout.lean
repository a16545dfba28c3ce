import LeafLayout.Markup.Scanner

/-!
The layout of a document. A leaf with text to show becomes three lines, its open tag, its text
behind an indent, and its close tag; a leaf whose element has no content, has content of another
kind, or is left without text stays as it is, and so does everything outside the leaves.
-/

set_option autoImplicit false

namespace LeafLayout

open Text Markup

structure Style where
  indent : List Char := [' ', ' ']
  squeeze : Bool := true
  strip : Bool := true
deriving DecidableEq, Repr

namespace Style

def shape (style : Style) (text : List Char) : List Char :=
  let text := if style.squeeze then Text.squeeze text else text
  if style.strip then Text.strip text else text

/-- The three lines for an element with the given text, unless it is to stay as it is. -/
def block? (style : Style) (name attributes text : List Char) : Option (List Char) :=
  if isContentless name || isVerbatim name then none
  else
    let shaped := style.shape text
    if shaped.isEmpty then none
    else some ('<' :: name ++ attributes ++ ['>', '\n'] ++ style.indent ++ shaped ++
      ['\n', '<', '/'] ++ name ++ ['>'])

def leafBlock? (style : Style) (leaf : Leaf) : Option (List Char) :=
  style.block? leaf.name leaf.attributes leaf.text

/-- The rest of a document, of which all before the cursor is written already, with the leaves
still to come. The cursor only moves past leaves that change, so that what lies between two of them
is copied in one piece. -/
def arrangeFrom (style : Style) (copied : Cursor Char) : List Leaf → List Char
  | [] => copied.rest
  | leaf :: more =>
    match style.leafBlock? leaf with
    | none => style.arrangeFrom copied more
    | some block =>
      match copied.cutAt? leaf.start with
      | none => copied.rest
      | some (before, atLeaf) =>
        match atLeaf.cutAt? leaf.stop with
        | none => copied.rest
        | some (_, afterLeaf) => before ++ block ++ style.arrangeFrom afterLeaf more

def arrange (style : Style) (document : List Char) : List Char :=
  style.arrangeFrom (Cursor.start document) (leaves document)

end Style

end LeafLayout
