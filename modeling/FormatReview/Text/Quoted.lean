import FormatReview.Text.Printable

namespace FormatReview.Text

/-! Texts between double quotes, in which every character can be seen. -/

def hexDigits (n : Nat) : List Char := Nat.toDigits 16 n

def quotedChar (c : Char) : List Char :=
  if c = '\x00' then ['\\', '0']
  else if c = '\t' then ['\\', 't']
  else if c = '\n' then ['\\', 'n']
  else if c = '\r' then ['\\', 'r']
  else if c = '"' then ['\\', '"']
  else if c = '\\' then ['\\', '\\']
  else if standsAlone c then [c]
  else ['\\', 'u', '\x7b'] ++ hexDigits c.toNat ++ ['\x7d']

def quotedChars (text : List Char) : List Char := '"' :: text.flatMap quotedChar ++ ['"']

def quoted (text : String) : String := String.ofList (quotedChars text.toList)

end FormatReview.Text
