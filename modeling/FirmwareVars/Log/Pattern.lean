import FirmwareVars.Text.Letter
import FirmwareVars.Text.Numeral
/-!
# Patterns

A log directive may compare the value of a field with a regular expression.  The library never compares values, so all
that matters of a pattern is whether it is one: a filter with a pattern that is none is refused as a whole.

`isPattern` goes through a pattern once, from left to right, and keeps the switches in force and the groups that are
open.  It refuses what is not written like a pattern, what is nested too deeply, and what a matcher over the bytes of a
text cannot do that knows no property of characters: classes of Unicode characters, letters in either case, edges of
Unicode words, and bytes that are no text.

A pattern stands in a list with commas and between braces, after an equals sign, so it never has a comma, a closing
brace or an equals sign.  What would need one, such as a count in braces, is therefore never complete.
-/
namespace FirmwareVars
namespace Log
namespace Pattern

/-- The switches that decide what may be written. -/
structure Switches where
  /-- Letters count in either case. -/
  caseless : Bool
  /-- Characters are matched, and not bytes. -/
  unicode : Bool
  /-- Blanks count for nothing, and neither does the rest of a line after a number sign. -/
  spaced : Bool
  deriving DecidableEq

namespace Switches

/-- The switches at the beginning of a pattern. -/
def standard : Switches := ⟨false, true, false⟩

def letters : Text := "imsURux".toList

/-- Turns the switch of a letter on or off; most switches make no difference to what may be written. -/
def turn (m : Switches) (letter : Char) (on : Bool) : Switches :=
  if letter = 'i' then { m with caseless := on }
  else if letter = 'u' then { m with unicode := on }
  else if letter = 'x' then { m with spaced := on }
  else m

end Switches

/-! ## Blanks -/

/-- What follows the blanks and the comments at the front, from within a comment or from outside. -/
def afterBlanks : Bool → Text → Text
  | _, [] => []
  | true, c :: cs => afterBlanks (c != '\n') cs
  | false, c :: cs =>
    if Text.isBlank c then afterBlanks false cs else if c = '#' then afterBlanks true cs else c :: cs

/-- What follows the blanks at the front, where they count for nothing. -/
def pass (m : Switches) (t : Text) : Text := if m.spaced then afterBlanks false t else t

/-- The character that is looked at ahead.  Only a comment's first number sign is passed over with the blanks, and not
the comment. -/
def ahead? (m : Switches) (t : Text) : Option Char :=
  if m.spaced then
    match Text.trimLeft t with
    | '#' :: rest => (Text.trimLeft rest).head?
    | rest => rest.head?
  else t.head?

/-! ## Atoms -/

inductive Atom
  /-- A character; `coded` is whether it is written as a byte of two digits. -/
  | char (c : Char) (coded : Bool)
  | any
  /-- An end of a line or of the text. -/
  | edge
  /-- An edge of a word, or a place that is none. -/
  | wordEdge
  /-- Digits, blanks or word characters, or all but these. -/
  | kind (negated : Bool)
  deriving DecidableEq

namespace Atom

/-- May stand in a pattern under the switches.  A byte beyond ASCII is no text, and neither is what is not ASCII among
bytes. -/
def fits (m : Switches) : Atom → Bool
  | char c coded => if m.unicode then !m.caseless else !coded || c.toNat < 0x80
  | any => m.unicode
  | edge => true
  | wordEdge => !m.unicode
  | kind negated => !m.unicode && !negated

/-- May stand in a set under the switches; a set of bytes has ASCII characters only. -/
def fitsInSet (m : Switches) : Atom → Bool
  | char c _ => if m.unicode then !m.caseless else c.toNat < 0x80
  | kind negated => !m.unicode && !negated
  | _ => false

end Atom

/-- A character of a number, with any blanks in front of its digits and behind them. -/
def readDigits (m : Switches) : Nat → Nat → Text → Option (Nat × Text)
  | 0, value, t => some (value, pass m t)
  | count + 1, value, t =>
    match pass m t with
    | c :: rest =>
      match Numeral.digit? 16 c with
      | some d => readDigits m count (16 * value + d) rest
      | none => none
    | [] => none

/-- The character that a number of digits spells. -/
def readCoded (m : Switches) (count : Nat) (t : Text) : Option (Atom × Text) :=
  match readDigits m count 0 t with
  | some (n, rest) => if n.isValidChar then some (.char (Char.ofNat n) (count == 2), rest) else none
  | none => none

/-- The control character of a letter. -/
def control? (c : Char) : Option Char :=
  if c = 'a' then some '\x07'
  else if c = 'f' then some '\x0c'
  else if c = 't' then some '\t'
  else if c = 'n' then some '\n'
  else if c = 'r' then some '\r'
  else if c = 'v' then some '\x0b'
  else none

/-- An ASCII character that a backslash makes stand for itself: neither a letter nor a digit, nor an angle. -/
def standsForItself (c : Char) : Bool := c.toNat < 0x80 && !c.isAlphanum && c != '<' && c != '>'

def readEscape (m : Switches) : Text → Option (Atom × Text)
  | [] => none
  | c :: rest =>
    if c = 'x' then readCoded m 2 rest
    else if c = 'u' then readCoded m 4 rest
    else if c = 'U' then readCoded m 8 rest
    else if "dsw".toList.contains c then some (.kind false, rest)
    else if "DSW".toList.contains c then some (.kind true, rest)
    else if "bB<>".toList.contains c then some (.wordEdge, rest)
    else if "Az".toList.contains c then some (.edge, rest)
    else match control? c with
      | some d => some (.char d false, rest)
      | none => if standsForItself c then some (.char c false, rest) else none

/-! ## Sets -/

/-- How deep parts in a row are nested: one part alone is not nested in the row. -/
def depthOf : List Nat → Nat
  | [] => 0
  | [d] => d
  | ds => ds.foldl max 0 + 1

/-- A set in brackets that is being read. -/
structure OpenSet where
  /-- How deep the set on the left of the latest operator is nested. -/
  left : Option Nat
  /-- The same of every item since then. -/
  items : List Nat

namespace OpenSet

def add (s : OpenSet) (depth : Nat) : OpenSet := { s with items := depth :: s.items }

def depth (s : OpenSet) : Nat :=
  match s.left with
  | some left => max left (depthOf s.items) + 1
  | none => depthOf s.items

/-- Goes on to the right of an operator. -/
def operate (s : OpenSet) : OpenSet := ⟨some s.depth, []⟩

end OpenSet

/-- The names of sets of ASCII characters. -/
def setNames : List Text :=
  ["alnum".toList, "alpha".toList, "ascii".toList, "blank".toList, "cntrl".toList, "digit".toList, "graph".toList,
    "lower".toList, "print".toList, "punct".toList, "space".toList, "upper".toList, "word".toList, "xdigit".toList]

/-- A named set after its opening bracket, and whether it is negated. -/
def readNamed? : Text → Option (Bool × Text)
  | ':' :: t =>
    let (negated, t) := match t with
      | '^' :: rest => (true, rest)
      | t => (false, t)
    match t.dropWhile (· != ':') with
    | ':' :: ']' :: rest => if setNames.contains (t.takeWhile (· != ':')) then some (negated, rest) else none
    | _ => none
  | _ => none

/-- A named set may stand under the switches as any character may, but it is not negated among bytes. -/
def namedFits (m : Switches) (negated : Bool) : Bool := if m.unicode then !m.caseless else !negated

/-- The dashes at the front of a set, which stand for themselves: how many they are, and what follows. -/
def takeDashes (m : Switches) : Nat → Text → Nat × Text
  | fuel + 1, '-' :: rest =>
    let (count, rest) := takeDashes m fuel (pass m rest)
    (count + 1, rest)
  | _, t => (0, t)

/-- The beginning of a set after its opening bracket: a mark of negation, dashes, and a closing bracket that stands for
itself when nothing else comes first. -/
def openSet (m : Switches) (t : Text) : Option (OpenSet × Text) :=
  let (negated, t) := match pass m t with
    | '^' :: rest => (true, pass m rest)
    | t => (false, t)
  let (count, t) := takeDashes m t.length t
  let (count, t) := match count, t with
    | 0, ']' :: rest => (1, pass m rest)
    | count, t => (count, t)
  if t = [] ∨ (negated ∧ !m.unicode) ∨ (count ≠ 0 ∧ !(Atom.char '-' false).fitsInSet m) then none
  else some (⟨none, List.replicate count 0⟩, t)

/-- A character of a set, as it stands or after a backslash. -/
def readMember (m : Switches) : Text → Option (Atom × Text)
  | '\\' :: rest => readEscape m rest
  | c :: rest => some (.char c false, rest)
  | [] => none

/-- An item of a set: a member, or a range from one character to another that does not come before it. -/
def readItem (m : Switches) (t : Text) : Option Text := do
  let (first, t) ← readMember m t
  let t := pass m t
  match t with
  | [] => none
  | '-' :: rest =>
    if ahead? m rest = some ']' ∨ ahead? m rest = some '-' then if first.fitsInSet m then some t else none
    else
      let (last, rest) ← readMember m (pass m rest)
      match first, last with
      | .char a _, .char b _ => if a ≤ b ∧ first.fitsInSet m ∧ last.fitsInSet m then some rest else none
      | _, _ => none
  | t => if first.fitsInSet m then some t else none

/-- The items of a set and its closing bracket, within sets that are open around it: how deep the outermost one is
nested.  Each step takes a character or more. -/
def readSet (m : Switches) : Nat → List OpenSet → OpenSet → Text → Option (Nat × Text)
  | 0, _, _, _ => none
  | fuel + 1, outer, s, t =>
    match pass m t with
    | [] => none
    | '[' :: rest =>
      match readNamed? rest with
      | some (negated, rest) => if namedFits m negated then readSet m fuel outer (s.add 0) rest else none
      | none =>
        match openSet m rest with
        | some (inner, rest) => readSet m fuel (s :: outer) inner rest
        | none => none
    | ']' :: rest =>
      match outer with
      | [] => some (s.depth + 1, rest)
      | o :: outer => readSet m fuel outer (o.add (s.depth + 1)) rest
    | '&' :: '&' :: rest | '-' :: '-' :: rest | '~' :: '~' :: rest => readSet m fuel outer s.operate rest
    | t =>
      match readItem m t with
      | some rest => readSet m fuel outer (s.add 0) rest
      | none => none

/-! ## Groups -/

inductive Part
  | switches
  /-- Something that matches, and how deep it is nested. -/
  | matcher (depth : Nat)
  deriving DecidableEq

/-- What is read within one pair of parentheses: how deep the finished alternatives are nested, and the parts of the
last one, latest first. -/
structure Row where
  done : List Nat
  parts : List Part
  deriving DecidableEq

namespace Row

def empty : Row := ⟨[], []⟩

def add (r : Row) (p : Part) : Row := { r with parts := p :: r.parts }

/-- How deep the alternative that is being read is nested. -/
def lastDepth (r : Row) : Nat :=
  depthOf (r.parts.map fun
    | .switches => 0
    | .matcher depth => depth)

def depth (r : Row) : Nat := depthOf (r.lastDepth :: r.done)

def alternate (r : Row) : Row := ⟨r.lastDepth :: r.done, []⟩

/-- Repeats the latest part, which must be something that matches. -/
def repeated? (r : Row) : Option Row :=
  match r.parts with
  | .matcher depth :: parts => some { r with parts := .matcher (depth + 1) :: parts }
  | _ => none

end Row

/-- May begin the name of a group. -/
def beginsName (c : Char) : Bool := c == '_' || Text.isAlphabetic c

/-- May stand in the name of a group behind its first character. -/
def continuesName (c : Char) : Bool := c == '_' || c == '.' || c == '[' || c == ']' || Text.isAlphanumeric c

/-- The name of a group up to its closing angle. -/
def readName (t : Text) : Option (Text × Text) :=
  match t.takeWhile (· != '>'), t.dropWhile (· != '>') with
  | c :: cs, _ :: rest => if beginsName c && cs.all continuesName then some (c :: cs, rest) else none
  | _, _ => none

/-- The letters of switches up to a parenthesis or a colon, each of them once; those behind a dash are turned off, and
a dash is not the last of them.  `seen` is what was read of them, latest first. -/
def readSwitches (seen : Text) (m : Switches) : Text → Option (Text × Switches × Char × Text)
  | [] => none
  | c :: rest =>
    if c = ')' ∨ c = ':' then if seen.head? = some '-' then none else some (seen, m, c, rest)
    else if seen.contains c || !(c == '-' || Switches.letters.contains c) then none
    else readSwitches (c :: seen) (m.turn c (!seen.contains '-')) rest

structure Reading where
  switches : Switches
  row : Row
  /-- The rows around it, innermost first, with the switches to go back to. -/
  outer : List (Switches × Row)
  names : List Text

namespace Reading

def start : Reading := ⟨.standard, .empty, [], []⟩

def enter (r : Reading) (inner : Switches) : Reading :=
  { r with switches := inner, row := .empty, outer := (r.switches, r.row) :: r.outer }

def openGroup (r : Reading) (t : Text) : Option (Reading × Text) :=
  let named (t : Text) : Option (Reading × Text) :=
    match readName t with
    | some (name, rest) =>
      if r.names.contains name then none else some ({ r with names := name :: r.names }.enter r.switches, rest)
    | none => none
  match pass r.switches t with
  | '?' :: 'P' :: '<' :: rest => named rest
  | '?' :: '<' :: rest => named rest
  | '?' :: rest =>
    match readSwitches [] r.switches rest with
    | some (_, m, ':', rest) => some (r.enter m, rest)
    | some (_ :: _, m, _, rest) => some ({ r with switches := m, row := r.row.add .switches }, rest)
    | _ => none
  | t => some (r.enter r.switches, t)

/-- Takes an atom, if it may stand here. -/
def atom (r : Reading) (a : Atom) (rest : Text) : Option (Reading × Text) :=
  if a.fits r.switches then some ({ r with row := r.row.add (.matcher 0) }, rest) else none

/-- One step of reading, which takes a character or more. -/
def step (r : Reading) : Text → Option (Reading × Text)
  | [] => none
  | c :: rest =>
    if c = '(' then r.openGroup rest
    else if c = ')' then
      match r.outer with
      | (m, row) :: outer =>
        some ({ r with switches := m, row := row.add (.matcher (r.row.depth + 1)), outer := outer }, rest)
      | [] => none
    else if c = '|' then some ({ r with row := r.row.alternate }, rest)
    else if c = '[' then do
      let (s, rest) ← openSet r.switches rest
      let (depth, rest) ← readSet r.switches (rest.length + 1) [] s rest
      return ({ r with row := r.row.add (.matcher depth) }, rest)
    else if c = '?' ∨ c = '*' ∨ c = '+' then do
      let row ← r.row.repeated?
      return ({ r with row := row }, (Text.after? ['?'] rest).getD rest)
    else if c = '\x7b' then none
    else if c = '\\' then do
      let (a, rest) ← readEscape r.switches rest
      r.atom a rest
    else if c = '.' then r.atom .any rest
    else if c = '^' ∨ c = '$' then r.atom .edge rest
    else r.atom (.char c false) rest

def run : Nat → Reading → Text → Option Reading
  | 0, _, _ => none
  | fuel + 1, r, t =>
    match pass r.switches t with
    | [] => some r
    | t =>
      match r.step t with
      | some (r, rest) => run fuel r rest
      | none => none

end Reading

/-- How deep the parts of a pattern may be nested. -/
def depthLimit : Nat := 250

/-- Is a pattern that a matcher can be made of. -/
def isPattern (t : Text) : Bool :=
  match Reading.run (t.length + 1) .start t with
  | some r => r.outer.isEmpty && r.row.depth ≤ depthLimit
  | none => false

/-! ## Numbers -/

/-- The power of ten behind a number, or nothing. -/
def isExponent : Text → Bool
  | [] => true
  | c :: t =>
    let digits := match t with
      | '+' :: digits => digits
      | '-' :: digits => digits
      | digits => digits
    (c == 'e' || c == 'E') && !digits.isEmpty && digits.all Numeral.isDigit

/-- A number without a sign: digits around a point, at least one of them, and perhaps a power of ten, or a word. -/
def isNumber (t : Text) : Bool :=
  let whole := t.takeWhile Numeral.isDigit
  let rest := t.dropWhile Numeral.isDigit
  let (places, rest) := match rest with
    | '.' :: rest => (rest.takeWhile Numeral.isDigit, rest.dropWhile Numeral.isDigit)
    | rest => ([], rest)
  ((whole ++ places) != [] && isExponent rest) ||
    ["inf".toList, "infinity".toList, "nan".toList].any (Text.sameLetters t)

/-- May be compared with values: a pattern, or a number with a plus sign, which is none.  Truth values and all other
numbers are patterns too. -/
def isComparand (t : Text) : Bool :=
  isPattern t || match t with
    | '+' :: number => isNumber number
    | _ => false

/-! ## Examples -/

example : isPattern "[[:alpha:]_-]+(?<rest>x|)".toList = true := by decide +kernel
example : isPattern "[z-a]".toList = false := by decide +kernel

/-- Digits are a class of Unicode characters, unless bytes are matched. -/
example : isPattern "\\d".toList = false ∧ isPattern "(?-u)\\d".toList = true := by decide +kernel

example : isComparand "+1.5e3".toList = true ∧ isPattern "+1.5e3".toList = false := by decide +kernel

end Pattern
end Log
end FirmwareVars
