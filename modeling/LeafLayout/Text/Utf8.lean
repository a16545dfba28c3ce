/-!
Characters as octets and back. Writing is exact. Reading accepts every sequence of octets: where one
is not well formed, the longest part of it that could have begun a character becomes one
replacement character, and reading goes on with the octet that did not fit.
-/

set_option autoImplicit false

namespace LeafLayout.Text.Utf8

def encode (text : List Char) : List UInt8 :=
  text.flatMap String.utf8EncodeChar

def replacement : Char := '\uFFFD'

/-- Between two characters, or inside one: then the next octet must lie between two bounds, some
more are owed after it, and those so far have given a value. -/
inductive State where
  | between
  | inside (owed : Nat) (low high : UInt8) (value : Nat)

/-- What the first octet of a character yields. The narrower bounds after four of the octets keep
out overlong forms, surrogates and values past the last code point. -/
def lead (b : UInt8) : List Char × State :=
  if b < 0x80 then ([Char.ofNat b.toNat], .between)
  else if 0xC2 ≤ b && b ≤ 0xDF then ([], .inside 0 0x80 0xBF (b.toNat - 0xC0))
  else if b == 0xE0 then ([], .inside 1 0xA0 0xBF 0)
  else if b == 0xED then ([], .inside 1 0x80 0x9F 0xD)
  else if 0xE1 ≤ b && b ≤ 0xEF then ([], .inside 1 0x80 0xBF (b.toNat - 0xE0))
  else if b == 0xF0 then ([], .inside 2 0x90 0xBF 0)
  else if b == 0xF4 then ([], .inside 2 0x80 0x8F 4)
  else if 0xF1 ≤ b && b ≤ 0xF3 then ([], .inside 2 0x80 0xBF (b.toNat - 0xF0))
  else ([replacement], .between)

def step : State → UInt8 → List Char × State
  | .between, b => lead b
  | .inside owed low high value, b =>
    if low ≤ b && b ≤ high then
      let value := value * 64 + (b.toNat - 0x80)
      match owed with
      | 0 => ([Char.ofNat value], .between)
      | owed + 1 => ([], .inside owed 0x80 0xBF value)
    else (replacement :: (lead b).1, (lead b).2)

def decodeFrom : State → List UInt8 → List Char
  | .between, [] => []
  | .inside _ _ _ _, [] => [replacement]
  | state, b :: rest => (step state b).1 ++ decodeFrom (step state b).2 rest

def decode (octets : List UInt8) : List Char :=
  decodeFrom .between octets

theorem decodeFrom_cons (state : State) (b : UInt8) (rest : List UInt8) :
    decodeFrom state (b :: rest) =
      (step state b).1 ++ decodeFrom (step state b).2 rest := by
  cases state <;> rfl

end LeafLayout.Text.Utf8
