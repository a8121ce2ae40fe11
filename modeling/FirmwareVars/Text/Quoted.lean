import FirmwareVars.Text.Numeral
import FirmwareVars.Text.Printable
import FirmwareVars.Text.Utf8
/-!
# Quoted text

Text as diagnostics show it: between double quotes, with NUL, tab, line feed, carriage return, quote and backslash as
a backslash and one character, and every other character that cannot be shown on its own as its number in braces.
`quoteBytes` shows a byte string in the same way: what spells a character is quoted as text, and any other byte is two
upper-case digits.

`Json.quote` is the other written form, of JSON strings: the quote, the backslash and the control characters below
U+0020 are escaped, the common ones by a letter and the others by four digits, and every other character stands for
itself.
-/
namespace FirmwareVars
namespace Text

/-- A character by its number: a backslash, the letter `u`, and hexadecimal digits in braces. -/
def numbered (c : Char) : Text :=
  ['\\', 'u', '\x7b'] ++ Numeral.spell 16 c.toNat ++ ['\x7d']

def escape (c : Char) : Text :=
  if c = '\x00' then ['\\', '0']
  else if c = '\t' then ['\\', 't']
  else if c = '\r' then ['\\', 'r']
  else if c = '\n' then ['\\', 'n']
  else if c = '\x22' then ['\\', '\x22']
  else if c = '\\' then ['\\', '\\']
  else if isExtender c || !isPrintable c then numbered c
  else [c]

def quote (t : Text) : Text := ['\x22'] ++ t.flatMap escape ++ ['\x22']

/-- The quoted form of a piece of a byte string. -/
def escapePiece : Utf8.Piece → Text
  | .char c => escape c
  | .broken bytes => bytes.flatMap fun b => ['\\', 'x'] ++ (Numeral.spellFixed 16 2 b.toNat).map Char.toUpper

def quoteBytes (bs : Bytes) : Text := ['\x22'] ++ (Utf8.pieces bs).flatMap escapePiece ++ ['\x22']

/-! ## The written form -/

example : quote ['a', '\x22', '\n', '\x27', '\x07', 'é'] =
    ['\x22', 'a', '\\', '\x22', '\\', 'n', '\x27', '\\', 'u', '\x7b', '7', '\x7d', 'é', '\x22'] := by
  decide +kernel

example : quoteBytes [0x61, 0x27, 0xFF] = ['\x22', 'a', '\x27', '\\', 'x', 'F', 'F', '\x22'] := by
  decide +kernel

end Text

/-! ## In JSON -/

namespace Json

def escape (c : Char) : Text :=
  if c = '\x22' then ['\\', '\x22']
  else if c = '\\' then ['\\', '\\']
  else if c = '\x08' then ['\\', 'b']
  else if c = '\x0c' then ['\\', 'f']
  else if c = '\n' then ['\\', 'n']
  else if c = '\r' then ['\\', 'r']
  else if c = '\t' then ['\\', 't']
  else if c.toNat < 0x20 then ['\\', 'u'] ++ Numeral.spellFixed 16 4 c.toNat
  else [c]

def quote (t : Text) : Text := ['\x22'] ++ t.flatMap escape ++ ['\x22']

example : quote ['a', '\x22', '\x08', '\x1f', '\x7f'] =
    ['\x22', 'a', '\\', '\x22', '\\', 'b', '\\', 'u', '0', '0', '1', 'f', '\x7f', '\x22'] := by
  decide +kernel

end Json
end FirmwareVars
