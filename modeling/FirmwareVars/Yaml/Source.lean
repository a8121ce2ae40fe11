import FirmwareVars.Bytes
import FirmwareVars.Text.Utf8
/-!
# YAML source text

The characters that a YAML stream may have, and where in it a reader stands.  `source?` refuses a text with any other
character, and turns the three line breaks that stand for a plain one (a carriage return, alone or before a line feed,
and U+0085) into line feeds.  The breaks U+2028 and U+2029 stay themselves.
-/
namespace FirmwareVars
namespace Yaml

/-- A character that may stand in a stream. -/
def isAllowed (c : Char) : Bool :=
  let n := c.toNat
  n == 0x09 || n == 0x0A || n == 0x0D || (0x20 ≤ n && n ≤ 0x7E) || n == 0x85 || (0xA0 ≤ n && n ≤ 0xD7FF) ||
    (0xE000 ≤ n && n ≤ 0xFFFD) || 0x10000 ≤ n

/-- The text with one character for each line break. -/
def unifyBreaks : Text → Text
  | '\r' :: '\n' :: rest => '\n' :: unifyBreaks rest
  | c :: rest => (if c = '\r' ∨ c = '\u0085' then '\n' else c) :: unifyBreaks rest
  | [] => []

/-- A text as a stream, when all of its characters may stand in one. -/
def source? (t : Text) : Option Text := if t.all isAllowed then some (unifyBreaks t) else none

/-! ## Kinds of characters -/

def isBlank (c : Char) : Bool := c == ' ' || c == '\t'

def isBreak (c : Char) : Bool := c == '\n' || c == '\u2028' || c == '\u2029'

/-- Ends a word. -/
def isSpace (c : Char) : Bool := isBlank c || isBreak c

/-- May stand in the name of an anchor, a directive or a tag handle. -/
def isWord (c : Char) : Bool := c.isAlphanum || c == '_' || c == '-'

/-- Opens, closes or parts a collection in brackets. -/
def isFlowIndicator (c : Char) : Bool := c == ',' || c == '[' || c == ']' || c == '\x7b' || c == '\x7d'

/-- Begins with a blank, a line break or the end of the stream. -/
def atSpace : Text → Bool
  | [] => true
  | c :: _ => isSpace c

/-! ## Places -/

/-- A place in a stream.  The index counts bytes; the column counts characters. -/
structure Mark where
  line : Nat
  column : Nat
  index : Nat
  deriving DecidableEq

namespace Mark

def start : Mark := ⟨0, 0, 0⟩

def after (m : Mark) (c : Char) : Mark :=
  let index := m.index + (Utf8.encodeChar c).length
  if isBreak c then ⟨m.line + 1, 0, index⟩ else ⟨m.line, m.column + 1, index⟩

/-- The place behind a number of ASCII characters of one line. -/
def right (m : Mark) (n : Nat) : Mark := ⟨m.line, m.column + n, m.index + n⟩

end Mark

/-- A place, and the text from there on. -/
structure Cursor where
  mark : Mark
  rest : Text
  deriving DecidableEq

/-- The cursor behind a number of ASCII characters of one line. -/
def Cursor.right (c : Cursor) (n : Nat) : Cursor := ⟨c.mark.right n, c.rest.drop n⟩

/-- A line of three dashes or three dots, with or without more behind a blank, parts documents. -/
def atDocumentMark (m : Mark) (t : Text) : Bool :=
  m.column == 0 &&
    match t with
    | a :: b :: c :: rest => a == b && b == c && (a == '-' || a == '.') && atSpace rest
    | _ => false

def skipBlanks : Mark → Text → Cursor
  | m, [] => ⟨m, []⟩
  | m, c :: rest => if isBlank c then skipBlanks (m.after c) rest else ⟨m, c :: rest⟩

/-- The cursor at the end of the line. -/
def skipLine : Mark → Text → Cursor
  | m, [] => ⟨m, []⟩
  | m, c :: rest => if isBreak c then ⟨m, c :: rest⟩ else skipLine (m.after c) rest

/-- The cursor behind what may follow a header on its line: blanks, a comment, and the line break. -/
def finishLine? (c : Cursor) : Option Cursor :=
  let c := skipBlanks c.mark c.rest
  let c := if c.rest.head? = some '#' then skipLine c.mark c.rest else c
  match c.rest with
  | [] => some c
  | b :: rest => if isBreak b then some ⟨c.mark.after b, rest⟩ else none

end Yaml
end FirmwareVars
