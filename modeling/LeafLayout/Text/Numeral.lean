/-!
Decimal numerals without a sign: digits, which may have a point among them or at either end and an
exponent behind, and the words for what is not a finite number.
-/

set_option autoImplicit false

namespace LeafLayout.Text

def isDigits (text : List Char) : Bool :=
  !text.isEmpty && text.all Char.isDigit

/-- The exponent of a numeral from its letter on, or nothing. -/
def isExponent : List Char → Bool
  | [] => true
  | 'e' :: '-' :: rest => isDigits rest
  | 'e' :: '+' :: rest => isDigits rest
  | 'e' :: rest => isDigits rest
  | _ => false

def isNumeral (text : List Char) : Bool :=
  let text := text.map Char.toLower
  let whole := text.takeWhile Char.isDigit
  match text.dropWhile Char.isDigit with
  | '.' :: rest =>
    isDigits (whole ++ rest.takeWhile Char.isDigit) && isExponent (rest.dropWhile Char.isDigit)
  | rest =>
    (isDigits whole && isExponent rest) ||
      ["inf", "infinity", "nan"].contains (String.ofList text)

end LeafLayout.Text
