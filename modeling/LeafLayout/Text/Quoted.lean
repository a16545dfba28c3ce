import LeafLayout.Text.Showable

/-!
A text between double quotes. Quotes and backslashes get a backslash before them, the common
controls have a letter each, and whatever else cannot be shown is written as its code point in
hexadecimal.
-/

set_option autoImplicit false

namespace LeafLayout.Text

def codePointEscape (c : Char) : List Char :=
  ['\\', 'u', '\x7b'] ++ Nat.toDigits 16 c.toNat ++ ['\x7d']

def quotedChar (c : Char) : List Char :=
  if c = '\x00' then ['\\', '0']
  else if c = '\t' then ['\\', 't']
  else if c = '\r' then ['\\', 'r']
  else if c = '\n' then ['\\', 'n']
  else if c = '\\' then ['\\', '\\']
  else if c = '"' then ['\\', '"']
  else if isShowable c then [c]
  else codePointEscape c

def quoted (text : List Char) : List Char :=
  '"' :: text.flatMap quotedChar ++ ['"']

end LeafLayout.Text
