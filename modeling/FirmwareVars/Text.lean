/-!
# Text

Names, documents and messages are lists of characters, so every reader and every writer in this library is a recursion
over a list, and what a writer produced can be followed character by character into the reader that takes it back.

`splitOn` cuts a text at a separator and `joinWith` puts the pieces together again; the entry-name grammar and the
attribute listing are written with them.

The blank characters are those with the Unicode property `White_Space`, a set that has been stable since Unicode 6.3:
U+180E, U+200B and U+FEFF are not in it.  Larger properties are tables of ranges (`inRanges`).
-/
namespace FirmwareVars

/-- A text: its characters, first to last. -/
abbrev Text := List Char

namespace Text

/-- Cuts at every separator.  A text without one is a single piece, so there is always a first piece. -/
def splitOn (sep : Char) : Text → List Text
  | [] => [[]]
  | c :: cs =>
    if c = sep then [] :: splitOn sep cs
    else match splitOn sep cs with
      | [] => [[c]]
      | piece :: pieces => (c :: piece) :: pieces

/-- Puts `sep` between neighbours. -/
def joinWith (sep : Text) : List Text → Text
  | [] => []
  | [piece] => piece
  | piece :: pieces => piece ++ sep ++ joinWith sep pieces

/-- Equal up to the case of ASCII letters. -/
def sameLetters (a b : Text) : Bool := a.map Char.toLower == b.map Char.toLower

/-- What follows `lead`, when the text starts with it. -/
def after? (lead : Text) (t : Text) : Option Text :=
  if lead.isPrefixOf t then some (t.drop lead.length) else none

/-- Blanks on the left up to `width` characters; a longer text is left alone. -/
def padLeft (width : Nat) (t : Text) : Text := List.replicate (width - t.length) ' ' ++ t

/-! ## Properties of characters -/

/-- Has the property `White_Space`. -/
def isBlank (c : Char) : Bool :=
  let n := c.toNat
  (9 ≤ n && n ≤ 13) || n == 0x20 || n == 0x85 || n == 0xA0 || n == 0x1680 || (0x2000 ≤ n && n ≤ 0x200A) ||
    n == 0x2028 || n == 0x2029 || n == 0x202F || n == 0x205F || n == 0x3000

def trimLeft (t : Text) : Text := t.dropWhile isBlank

def trimRight (t : Text) : Text := (t.reverse.dropWhile isBlank).reverse

/-- Without the blanks at either end; blanks between other characters stay. -/
def trim (t : Text) : Text := trimRight (trimLeft t)

/-- The number lies in one of the ranges, which are in increasing order and do not overlap: a look-up stops at the first
one that begins too late. -/
def inRanges (n : Nat) : List (Nat × Nat) → Bool
  | [] => false
  | (first, last) :: rest => if n < first then false else n ≤ last || inRanges n rest

end Text
end FirmwareVars
