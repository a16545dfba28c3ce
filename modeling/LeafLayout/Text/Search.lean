import LeafLayout.Text.Cursor

/-!
A search for one item that is asked again and again from places further on. It remembers its last
look at the text: as long as that look began no later than the place asked from, and what it found
is not behind that place, the same answer stands and the text is not looked at again. Whether it was
looked at is told along with the answer.
-/

set_option autoImplicit false

namespace LeafLayout.Text

structure Search (α : Type) where
  lookedFrom : Option Nat := none
  answer : Option (Cursor α) := none

/-- One question to a search: the place asked from, whether the text was looked at, and the
answer. -/
structure Probe where
  asked : Nat
  looked : Bool
  found : Option Nat
deriving DecidableEq, Repr

namespace Search

variable {α : Type} [Roomy α] [DecidableEq α]

def stillServes (search : Search α) (offset : Nat) : Bool :=
  search.lookedFrom.any (· ≤ offset) && search.answer.all (offset ≤ ·.offset)

/-- Asks for the target from a place: the record of the question, and the search after it, whose
answer is the answer. -/
def inquire (search : Search α) (target : α) (place : Cursor α) : Probe × Search α :=
  if search.stillServes place.offset then
    ({ asked := place.offset, looked := false, found := search.answer.map (·.offset) }, search)
  else
    let found := place.seek target
    ({ asked := place.offset, looked := true, found := found.map (·.offset) },
      { lookedFrom := some place.offset, answer := found })

def probe (search : Search α) (target : α) (place : Cursor α) : Probe :=
  (search.inquire target place).1

def ask (search : Search α) (target : α) (place : Cursor α) : Search α :=
  (search.inquire target place).2

section Inquiry

variable {search : Search α} {target : α} {place : Cursor α}

theorem inquire_eq (search : Search α) (target : α) (place : Cursor α) :
    search.inquire target place = (search.probe target place, search.ask target place) := rfl

theorem inquire_of_serves (h : search.stillServes place.offset = true) :
    search.inquire target place =
      ({ asked := place.offset, looked := false, found := search.answer.map (·.offset) }, search) :=
  if_pos h

theorem inquire_of_not_serves (h : ¬ search.stillServes place.offset = true) :
    search.inquire target place =
      ({ asked := place.offset, looked := true, found := (place.seek target).map (·.offset) },
        { lookedFrom := some place.offset, answer := place.seek target }) :=
  if_neg h

theorem ask_of_serves (h : search.stillServes place.offset = true) :
    search.ask target place = search :=
  congrArg Prod.snd (inquire_of_serves h)

theorem ask_of_not_serves (h : ¬ search.stillServes place.offset = true) :
    search.ask target place = { lookedFrom := some place.offset, answer := place.seek target } :=
  congrArg Prod.snd (inquire_of_not_serves h)

theorem asked_probe (search : Search α) (target : α) (place : Cursor α) :
    (search.probe target place).asked = place.offset := by
  rw [probe, inquire]
  split <;> rfl

theorem found_probe (search : Search α) (target : α) (place : Cursor α) :
    (search.probe target place).found = (search.ask target place).answer.map (·.offset) := by
  rw [probe, ask, inquire]
  split <;> rfl

end Inquiry

end Search

end LeafLayout.Text
