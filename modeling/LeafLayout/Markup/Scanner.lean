import LeafLayout.Markup.Leaf

/-!
The leaves of a document, from left to right and without overlap. Each opening bracket outside the
leaves found so far is visited once. A visit reads a name, then asks two searches for the end of the
tag and for the start of the next one; the searches are kept from visit to visit, so that the text
ahead is not looked through again and again. What a visit looked at is part of its record.
-/

set_option autoImplicit false

namespace LeafLayout.Markup

open Text

/-- The record of a visit: where the bracket is, where the name after it ends if there is one, what
was asked of the two searches, and the leaf. -/
structure Visit where
  opening : Nat
  nameEnd : Option Nat := none
  tagEndProbe : Option Probe := none
  nextTagProbe : Option Probe := none
  leaf : Option Leaf := none
deriving DecidableEq, Repr

/-- The searches for the end of a tag and for the start of the next. -/
structure Searches where
  tagEnd : Search Char := {}
  nextTag : Search Char := {}

def visit (searches : Searches) (opening : Cursor Char) : Visit × Searches :=
  let inside := opening.next
  if inside.rest.head?.any beginsName then
    let nameEnd := inside.pass belongsToName
    let tagEnds := searches.tagEnd.inquire '>' nameEnd
    let named : Visit := {
      opening := opening.offset
      nameEnd := some nameEnd.offset
      tagEndProbe := some tagEnds.1 }
    match tagEnds.2.answer with
    | none => (named, { searches with tagEnd := tagEnds.2 })
    | some tagEnd =>
      let nextTags := searches.nextTag.inquire '<' tagEnd.next
      let closed := { named with nextTagProbe := some nextTags.1 }
      match nextTags.2.answer with
      | none => (closed, { tagEnd := tagEnds.2, nextTag := nextTags.2 })
      | some nextTag =>
        ({ closed with leaf := leafBetween? inside tagEnd nextTag },
          { tagEnd := tagEnds.2, nextTag := nextTags.2 })
  else ({ opening := opening.offset }, searches)

/-- A scan under way: the text not walked over yet, the offset before which no leaf may begin, and
the searches. -/
structure Scanner where
  place : Cursor Char
  resume : Nat := 0
  searches : Searches := {}

namespace Scanner

def ofDocument (document : List Char) : Scanner :=
  { place := Cursor.start document }

def visitsFrom (resume : Nat) (searches : Searches) (offset : Nat) : List Char → List Visit
  | [] => []
  | c :: rest =>
    if c = '<' ∧ resume ≤ offset then
      let (record, searches) := visit searches ⟨offset, c :: rest⟩
      let resume := record.leaf.elim resume (·.stop)
      record :: visitsFrom resume searches (offset + c.utf8Size) rest
    else visitsFrom resume searches (offset + c.utf8Size) rest

def visits (scanner : Scanner) : List Visit :=
  visitsFrom scanner.resume scanner.searches scanner.place.offset scanner.place.rest

def nextFrom (resume : Nat) (searches : Searches) (offset : Nat) :
    List Char → Option Leaf × Scanner
  | [] => (none, { place := ⟨offset, []⟩, resume, searches })
  | c :: rest =>
    if c = '<' ∧ resume ≤ offset then
      match visit searches ⟨offset, c :: rest⟩ with
      | ({ leaf := some leaf, .. }, searches) =>
        (some leaf, { place := ⟨offset + c.utf8Size, rest⟩, resume := leaf.stop, searches })
      | (_, searches) => nextFrom resume searches (offset + c.utf8Size) rest
    else nextFrom resume searches (offset + c.utf8Size) rest

/-- The next leaf, and the scan after it; at the end of the text there is none. -/
def next (scanner : Scanner) : Option Leaf × Scanner :=
  nextFrom scanner.resume scanner.searches scanner.place.offset scanner.place.rest

def leaves (scanner : Scanner) : List Leaf :=
  scanner.visits.filterMap (·.leaf)

end Scanner

/-- The leaves of a document. -/
def leaves (document : List Char) : List Leaf :=
  (Scanner.ofDocument document).leaves

end LeafLayout.Markup
