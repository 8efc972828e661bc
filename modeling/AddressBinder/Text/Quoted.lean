import AddressBinder.Text.EscapeTable
import AddressBinder.Text.Numeral
/-!
# Quoted texts

The form in which a diagnostic shows a text: between double quotes, with quotes, backslashes and the usual control
characters escaped, and every character that has no visible form of its own spelled out by number.
-/
namespace AddressBinder
namespace Text

/-- A character written by number, as a backslash, `u` and the base-sixteen numeral in braces. -/
def byNumber (c : Char) : List Char := ['\\', 'u', '\x7b'] ++ Nat.toDigits 16 c.toNat ++ ['\x7d']

/-- Whether a quoted text writes the character by number. -/
def isSpelledOut (c : Char) : Bool := c.toNat < 0x20 || inRanges spelledOutRanges c.toNat

/-- A character as it stands in a quoted text. -/
def quotedChar (c : Char) : List Char :=
  if c = '"' then ['\\', '"']
  else if c = '\\' then ['\\', '\\']
  else if c = '\n' then ['\\', 'n']
  else if c = '\r' then ['\\', 'r']
  else if c = '\t' then ['\\', 't']
  else if c.toNat = 0 then ['\\', '0']
  else if isSpelledOut c then byNumber c
  else [c]

/-- A text in its quoted form. -/
def quoted (s : String) : String := String.ofList (['"'] ++ s.toList.flatMap quotedChar ++ ['"'])

end Text
end AddressBinder
