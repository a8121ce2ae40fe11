import FirmwareVars.Text.Numeral
import FirmwareVars.Yaml.Source
/-!
# YAML scalars

A scalar is written in one of five styles, and each style has its own rules for what line breaks and blanks mean.

* A *plain* scalar ends at an indicator; a run of blanks within it stays, and a line break within it is a space.
* A *quoted* scalar ends at its quote; in single quotes only the quote itself is escaped, by doubling it.
* A *block* scalar is the lines indented below its header; a literal one keeps its line breaks, in a folded one a
  single break between lines that begin with no blank is a space.

`takePlain`, `takeQuoted` and `takeBlock` read a scalar from a cursor, and return its text and the cursor behind it.
-/
namespace FirmwareVars
namespace Yaml

inductive Style
  | plain
  | singleQuoted
  | doubleQuoted
  | literal
  | folded
  deriving DecidableEq, Repr

/-! ## Gaps between words -/

/-- A run of blanks and line breaks inside a scalar. -/
structure Gap where
  /-- The blanks, as long as there is no line break. -/
  blanks : Text
  broken : Bool
  /-- The first line break; there is none when it was escaped. -/
  first : Text
  /-- The line breaks after the first. -/
  more : Text

namespace Gap

def none : Gap := ⟨[], false, [], []⟩

/-- The gap that an escaped line break begins. -/
def escaped : Gap := ⟨[], true, [], []⟩

/-- Whether there is anything in the gap. -/
def isOpen (g : Gap) : Bool := g.broken || !g.blanks.isEmpty

/-- The gap with one more blank or line break. -/
def push (g : Gap) (c : Char) : Gap :=
  if isBreak c then
    if g.broken then { g with more := g.more ++ [c] } else ⟨[], true, [c], []⟩
  else if g.broken then g
  else { g with blanks := g.blanks ++ [c] }

/-- What the gap stands for: its blanks, or its breaks without the first, or a space for a single break. -/
def text (g : Gap) : Text :=
  if !g.broken then g.blanks
  else if g.first = ['\n'] then (if g.more = [] then [' '] else g.more)
  else g.first ++ g.more

end Gap

/-! ## Plain scalars -/

/-- A plain scalar: its text, whether a line break was passed behind it, and what follows. -/
structure Plain where
  text : Text
  broken : Bool
  next : Cursor

/-- The colon before what opens, closes or parts a collection in brackets is not understood. -/
def isStrayColon (c : Char) (rest : Text) : Bool :=
  c == ':' && match rest with
    | d :: _ => isFlowIndicator d || d == '?'
    | [] => false

/-- Ends a plain scalar. -/
def endsPlain (flow : Bool) (c : Char) (rest : Text) : Bool :=
  (c == ':' && atSpace rest) || (flow && isFlowIndicator c)

/-- A plain scalar from within: `done` is the text so far, last character first, and `gap` what was passed since.
Outside brackets it goes on only as far as lines begin at column `margin` or behind. -/
def takePlainFrom (flow : Bool) (margin : Nat) (done : Text) (gap : Gap) (m : Mark) : Text → Option Plain
  | [] => some ⟨done.reverse, gap.broken, ⟨m, []⟩⟩
  | c :: rest =>
    if isSpace c then
      if c = '\t' ∧ gap.broken ∧ m.column < margin then none
      else takePlainFrom flow margin done (gap.push c) (m.after c) rest
    else if gap.isOpen && ((!flow && m.column < margin) || c == '#' || atDocumentMark m (c :: rest)) then
      some ⟨done.reverse, gap.broken, ⟨m, c :: rest⟩⟩
    else if flow && isStrayColon c rest then none
    else if endsPlain flow c rest then some ⟨done.reverse, gap.broken, ⟨m, c :: rest⟩⟩
    else takePlainFrom flow margin (c :: (gap.text.reverse ++ done)) .none (m.after c) rest

def takePlain (flow : Bool) (margin : Nat) (c : Cursor) : Option Plain :=
  takePlainFrom flow margin [] .none c.mark c.rest

/-! ## Quoted scalars -/

/-- The character that a backslash and one more character stand for. -/
def shortEscape? (c : Char) : Option Char :=
  match c with
  | '0' => some '\x00'
  | 'a' => some '\x07'
  | 'b' => some '\x08'
  | 't' | '\t' => some '\t'
  | 'n' => some '\n'
  | 'v' => some '\x0b'
  | 'f' => some '\x0c'
  | 'r' => some '\r'
  | 'e' => some '\x1b'
  | ' ' => some ' '
  | '\x22' => some '\x22'
  | '/' => some '/'
  | '\\' => some '\\'
  | 'N' => some '\u0085'
  | '_' => some '\u00a0'
  | 'L' => some '\u2028'
  | 'P' => some '\u2029'
  | _ => none

/-- How many digits follow the letter of a numbered escape. -/
def escapeDigits? (c : Char) : Option Nat :=
  match c with
  | 'x' => some 2
  | 'u' => some 4
  | 'U' => some 8
  | _ => none

/-- The character of a number, unless it is a surrogate or too large. -/
def scalarChar? (n : Nat) : Option Char :=
  if (0xD800 ≤ n ∧ n ≤ 0xDFFF) ∨ 0x10FFFF < n then none else some (Char.ofNat n)

/-- A numbered escape under way: how many digits are owed, and the value of those before. -/
structure Numbered where
  owed : Nat
  value : Nat

/-- A quoted scalar from within, with the numbered escape that is under way, if any. -/
def takeQuotedFrom (single : Bool) (done : Text) (gap : Gap) (number : Option Numbered) (m : Mark) :
    Text → Option (Text × Cursor)
  | [] => none
  | c :: rest =>
    match number with
    | some n =>
      match Numeral.digit? 16 c with
      | none => none
      | some d =>
        if n.owed ≤ 1 then
          match scalarChar? (n.value * 16 + d) with
          | some e => takeQuotedFrom single (e :: done) .none none (m.after c) rest
          | none => none
        else takeQuotedFrom single done .none (some ⟨n.owed - 1, n.value * 16 + d⟩) (m.after c) rest
    | none =>
      if isSpace c then takeQuotedFrom single done (gap.push c) none (m.after c) rest
      else if atDocumentMark m (c :: rest) then none
      else
        let done := gap.text.reverse ++ done
        if single then
          if c = '\x27' then
            match rest with
            | '\x27' :: rest => takeQuotedFrom single ('\x27' :: done) .none none ((m.after c).after c) rest
            | _ => some (done.reverse, ⟨m.after c, rest⟩)
          else takeQuotedFrom single (c :: done) .none none (m.after c) rest
        else if c = '\x22' then some (done.reverse, ⟨m.after c, rest⟩)
        else if c = '\\' then
          match rest with
          | [] => none
          | d :: rest =>
            let m := (m.after c).after d
            if isBreak d then takeQuotedFrom single done .escaped none m rest
            else match shortEscape? d with
              | some e => takeQuotedFrom single (e :: done) .none none m rest
              | none =>
                match escapeDigits? d with
                | some n => takeQuotedFrom single done .none (some ⟨n, 0⟩) m rest
                | none => none
        else takeQuotedFrom single (c :: done) .none none (m.after c) rest

/-- The quoted scalar behind an opening quote. -/
def takeQuoted (single : Bool) (c : Cursor) : Option (Text × Cursor) :=
  takeQuotedFrom single [] .none none c.mark c.rest

/-! ## Block scalars -/

/-- What becomes of the line breaks at the end of a block scalar. -/
inductive Chomp
  | strip
  | clip
  | keep
  deriving DecidableEq

/-- What the header of a block scalar says. -/
structure Header where
  chomp : Chomp
  /-- How much deeper than the block around it the text is indented, where the header says so. -/
  deeper : Option Nat

/-- The chomping indicator at the front, and what follows it. -/
def takeChomp : Text → Option (Chomp × Text)
  | '+' :: rest => some (.keep, rest)
  | '-' :: rest => some (.strip, rest)
  | _ => none

/-- The indentation indicator at the front, and what follows it; zero is not one. -/
def takeDeeper (t : Text) : Option (Option Nat × Text) :=
  match t with
  | c :: rest =>
    match Numeral.digit? 10 c with
    | some 0 => none
    | some n => some (some n, rest)
    | none => some (none, t)
  | [] => some (none, t)

/-- The two indicators of a header, in either order. -/
def takeHeader (t : Text) : Option (Header × Text) :=
  match takeChomp t with
  | some (chomp, rest) => (takeDeeper rest).map fun (deeper, rest) => (⟨chomp, deeper⟩, rest)
  | none =>
    match takeDeeper t with
    | none => none
    | some (deeper, rest) =>
      match deeper, takeChomp rest with
      | some _, some (chomp, rest) => some (⟨chomp, deeper⟩, rest)
      | _, _ => some (⟨.clip, deeper⟩, rest)

structure Block where
  /-- The column at which its lines begin, once that is known. -/
  indent : Option Nat
  /-- The rightmost column that indentation has come to. -/
  widest : Nat
  /-- The text so far, last character first. -/
  done : Text
  /-- The break behind the last line with text. -/
  first : Text
  /-- The breaks of the empty lines behind it. -/
  more : Text
  /-- Whether the last line with text begins with a blank. -/
  indented : Bool

namespace Block

/-- Is before the column at which the lines begin. -/
def isMargin (b : Block) (column : Nat) : Bool :=
  match b.indent with
  | some n => column < n
  | none => true

/-- The block with its indentation settled: that of the text around it, one at least, or what was seen. -/
def settle (b : Block) (margin : Nat) : Block :=
  match b.indent with
  | some _ => b
  | none => { b with indent := some (max (max b.widest margin) 1) }

/-- The block at the beginning of a line with text, which may begin with a blank. -/
def enter (b : Block) (fold : Bool) (blank : Bool) : Block :=
  let folds := fold && b.first == ['\n'] && !b.indented && !blank
  let gap := if folds then (if b.more = [] then [' '] else []) else b.first
  { b with done := (gap ++ b.more).reverse ++ b.done, first := [], more := [], indented := blank }

/-- The text of a block that has ended. -/
def text (b : Block) (chomp : Chomp) : Text :=
  b.done.reverse ++ match chomp with
    | .strip => []
    | .clip => b.first
    | .keep => b.first ++ b.more

end Block

/-- A block scalar from within; `inside` is whether the cursor is inside a line or in the margin of one. -/
def takeBlockFrom (fold : Bool) (chomp : Chomp) (margin : Nat) (b : Block) (inside : Bool) (m : Mark) :
    Text → Option (Text × Cursor)
  | [] => some ((b.settle margin).text chomp, ⟨m, []⟩)
  | c :: rest =>
    if inside then
      if isBreak c then takeBlockFrom fold chomp margin { b with first := [c] } false (m.after c) rest
      else takeBlockFrom fold chomp margin { b with done := c :: b.done } true (m.after c) rest
    else if c = ' ' ∧ b.isMargin m.column then
      takeBlockFrom fold chomp margin b false (m.after c) rest
    else
      let b := { b with widest := max b.widest m.column }
      if c = '\t' ∧ b.isMargin m.column then none
      else if isBreak c then
        takeBlockFrom fold chomp margin { b with more := b.more ++ [c] } false (m.after c) rest
      else
        let b := b.settle margin
        if b.indent = some m.column then
          let b := b.enter fold (isBlank c)
          takeBlockFrom fold chomp margin { b with done := c :: b.done } true (m.after c) rest
        else some (b.text chomp, ⟨m, c :: rest⟩)

/-- The block scalar behind its indicator, in a block that goes on at column `margin`. -/
def takeBlock (fold : Bool) (margin : Nat) (c : Cursor) : Option (Text × Cursor) :=
  match takeHeader c.rest with
  | none => none
  | some (header, rest) =>
    match finishLine? ⟨c.mark.right (c.rest.length - rest.length), rest⟩ with
    | none => none
    | some c =>
      let indent := header.deeper.map fun n => margin - 1 + n
      takeBlockFrom fold header.chomp margin ⟨indent, 0, [], [], [], false⟩ false c.mark c.rest

end Yaml
end FirmwareVars
