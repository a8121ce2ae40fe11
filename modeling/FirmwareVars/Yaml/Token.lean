import FirmwareVars.Yaml.Scalar
import FirmwareVars.Yaml.Tag
/-!
# YAML tokens

The tokens of a stream.  Most of them stand in the text; three kinds do not.  The start and the end of a block
collection follow from how lines are indented, and the key of a mapping is known as one only when its colon comes, so
the token for it is put in front of what was taken to be a scalar.

`Token.scan?` reads a whole stream.  `Scanner` is where it stands: the tokens so far, the columns of the open blocks,
and for each open bracket the place at which a key may have begun.
-/
namespace FirmwareVars
namespace Yaml

inductive Token
  | directive (d : Directive)
  | documentStart
  | documentEnd
  | blockSequenceStart
  | blockMappingStart
  | blockEnd
  | flowSequenceStart
  | flowSequenceEnd
  | flowMappingStart
  | flowMappingEnd
  | blockEntry
  | flowEntry
  | key
  | value
  | alias (name : Text)
  | anchor (name : Text)
  | tag (name : TagName)
  | scalar (style : Style) (text : Text)
  deriving DecidableEq

/-- A place at which a key may have begun. -/
structure KeyStart where
  /-- Nothing else can stand here. -/
  required : Bool
  /-- How many tokens came before it. -/
  number : Nat
  mark : Mark

/-- Where the scan of a stream stands. -/
structure Scanner where
  mark : Mark
  /-- The tokens so far, last one first. -/
  tokens : List Token
  /-- The column at which what belongs to the innermost block begins at the least; zero outside all blocks. -/
  margin : Nat
  /-- The same of the blocks around it. -/
  outerMargins : List Nat
  /-- Where a key may have begun, inside the innermost brackets. -/
  keyStart : Option KeyStart
  /-- The same for the brackets around them, and for what is around all brackets. -/
  outerKeyStarts : List (Option KeyStart)
  keyAllowed : Bool

namespace Scanner

def start : Scanner := ⟨Mark.start, [], 0, [], none, [], true⟩

def inFlow (s : Scanner) : Bool := !s.outerKeyStarts.isEmpty

def push (s : Scanner) (t : Token) : Scanner := { s with tokens := t :: s.tokens }

/-- With a token put behind the first `number` ones. -/
def insert (s : Scanner) (number : Nat) (t : Token) : Scanner :=
  let later := s.tokens.length - number
  { s with tokens := s.tokens.take later ++ t :: s.tokens.drop later }

/-- The most bytes of a key. -/
def keyLimit : Nat := 1024

/-- Whether a place is too far back for a key that began there. -/
def isStale (s : Scanner) (k : KeyStart) : Bool :=
  k.mark.line < s.mark.line || k.mark.index + keyLimit < s.mark.index

/-- A place at which a key may still have begun; it is an error if one had to. -/
def refresh (s : Scanner) : Option KeyStart → Option (Option KeyStart)
  | none => some none
  | some k => if s.isStale k then (if k.required then none else some none) else some (some k)

/-- The places at which keys may still have begun. -/
def refreshAll (s : Scanner) : List (Option KeyStart) → Option (List (Option KeyStart))
  | [] => some []
  | k :: ks =>
    match s.refresh k, s.refreshAll ks with
    | some k, some ks => some (k :: ks)
    | _, _ => none

/-- Forgets the places that are too far back. -/
def dropStale (s : Scanner) : Option Scanner :=
  match s.refresh s.keyStart, s.refreshAll s.outerKeyStarts with
  | some k, some ks => some { s with keyStart := k, outerKeyStarts := ks }
  | _, _ => none

/-- Nothing that begins before this place is a key. -/
def noKey (s : Scanner) : Option Scanner :=
  match s.keyStart with
  | some k => if k.required then none else some { s with keyStart := none }
  | none => some s

/-- A key may begin here, where one is allowed. -/
def maybeKey (s : Scanner) : Option Scanner :=
  if s.keyAllowed then
    s.noKey.map fun s =>
      { s with keyStart := some ⟨!s.inFlow && s.margin == s.mark.column + 1, s.tokens.length, s.mark⟩ }
  else some s

/-- Opens a block at a column that is deeper than the open ones; its token goes behind the first `number` ones. -/
def openBlock (s : Scanner) (column number : Nat) (t : Token) : Scanner :=
  if s.inFlow || column < s.margin then s
  else { s.insert number t with margin := column + 1, outerMargins := s.margin :: s.outerMargins }

/-- Closes blocks until what begins at a column belongs to the innermost one; `least` is that column and one. -/
def closeBlocks (least : Nat) : Nat → List Nat → List Token → Nat × List Nat × List Token
  | margin, outer, tokens =>
    match outer with
    | [] => (margin, [], tokens)
    | m :: outer =>
      if least < margin then closeBlocks least m outer (.blockEnd :: tokens) else (margin, m :: outer, tokens)

/-- Closes the blocks that do not reach a place. -/
def closeTo (s : Scanner) (least : Nat) : Scanner :=
  if s.inFlow then s
  else
    let (margin, outer, tokens) := closeBlocks least s.margin s.outerMargins s.tokens
    { s with margin := margin, outerMargins := outer, tokens := tokens }

/-! ## Between tokens -/

/-- Passes over blanks, comments and line breaks.  A tab counts as a blank only where no key may begin.  Outside
brackets a key may begin on a new line. -/
def skip (flow : Bool) (comment : Bool) (allowed : Bool) (m : Mark) : Text → Bool × Cursor
  | [] => (allowed, ⟨m, []⟩)
  | c :: rest =>
    if isBreak c then skip flow false (allowed || !flow) (m.after c) rest
    else if comment then skip flow true allowed (m.after c) rest
    else if c = ' ' ∨ (c = '\t' ∧ (flow || !allowed)) ∨ (c = '\ufeff' ∧ m.column = 0) then
      skip flow false allowed (m.after c) rest
    else if c = '#' then skip flow true allowed (m.after c) rest
    else (allowed, ⟨m, c :: rest⟩)

/-! ## Tokens -/

/-- A scanner and the text from its place on. -/
abbrev State := Scanner × Text

def moveTo (s : Scanner) (c : Cursor) : State := ({ s with mark := c.mark }, c.rest)

/-- Takes a token of a number of characters. -/
def takeMark (s : Scanner) (t : Token) (length : Nat) (rest : Text) : State :=
  ({ s.push t with mark := s.mark.right length }, rest.drop length)

/-- The end of everything that is open around a document. -/
def leaveBlocks (s : Scanner) : Option Scanner := (s.closeTo 0).noKey.map fun s => { s with keyAllowed := false }

def takeDirectiveLine (s : Scanner) (rest : Text) : Option State := do
  let s ← s.leaveBlocks
  let (d, after) ← takeDirective (rest.drop 1)
  let c ← finishLine? ⟨s.mark.right (rest.length - after.length), after⟩
  return (s.push (.directive d)).moveTo c

def takeDocumentMark (s : Scanner) (rest : Text) : Option State := do
  let s ← s.leaveBlocks
  return s.takeMark (if rest.head? = some '-' then .documentStart else .documentEnd) 3 rest

def openFlow (s : Scanner) (t : Token) (rest : Text) : Option State := do
  let s ← s.maybeKey
  let s := { s with keyStart := none, outerKeyStarts := s.keyStart :: s.outerKeyStarts, keyAllowed := true }
  return s.takeMark t 1 rest

def closeFlow (s : Scanner) (t : Token) (rest : Text) : Option State := do
  let s ← s.noKey
  let s := match s.outerKeyStarts with
    | k :: ks => { s with keyStart := k, outerKeyStarts := ks }
    | [] => s
  return { s with keyAllowed := false }.takeMark t 1 rest

def takeFlowEntry (s : Scanner) (rest : Text) : Option State := do
  let s ← s.noKey
  return { s with keyAllowed := true }.takeMark .flowEntry 1 rest

def takeBlockEntry (s : Scanner) (rest : Text) : Option State := do
  if !s.inFlow && !s.keyAllowed then none
  let s ← (s.openBlock s.mark.column s.tokens.length .blockSequenceStart).noKey
  return { s with keyAllowed := true }.takeMark .blockEntry 1 rest

def takeKey (s : Scanner) (rest : Text) : Option State := do
  if !s.inFlow && !s.keyAllowed then none
  let s ← (s.openBlock s.mark.column s.tokens.length .blockMappingStart).noKey
  return { s with keyAllowed := !s.inFlow }.takeMark .key 1 rest

def takeValue (s : Scanner) (rest : Text) : Option State :=
  match s.keyStart with
  | some k =>
    let s := (s.insert k.number .key).openBlock k.mark.column k.number .blockMappingStart
    some ({ s with keyStart := none, keyAllowed := false }.takeMark .value 1 rest)
  | none =>
    if !s.inFlow && !s.keyAllowed then none
    else
      let s := s.openBlock s.mark.column s.tokens.length .blockMappingStart
      some ({ s with keyAllowed := !s.inFlow }.takeMark .value 1 rest)

/-- What may follow a name. -/
def endsName (t : Text) : Bool :=
  match t with
  | [] => true
  | c :: _ => isSpace c || "?:,]\x7d%@\x60".toList.contains c

def takeName (s : Scanner) (make : Text → Token) (rest : Text) : Option State := do
  let s ← s.maybeKey
  let (name, after) := takeWord (rest.drop 1)
  if name = [] ∨ !endsName after then none
  return { s with keyAllowed := false }.takeMark (make name) (name.length + 1) rest

def takeTagName (s : Scanner) (rest : Text) : Option State := do
  let s ← s.maybeKey
  let (tag, after) ← takeTag rest
  if !(atSpace after || (s.inFlow && after.head? == some ',')) then none
  return { s with keyAllowed := false }.takeMark (.tag tag) (rest.length - after.length) rest

def takeBlockScalar (s : Scanner) (fold : Bool) (rest : Text) : Option State := do
  let s ← s.noKey
  let (text, c) ← takeBlock fold s.margin ⟨s.mark.right 1, rest.drop 1⟩
  return ({ s with keyAllowed := true }.push (.scalar (if fold then .folded else .literal) text)).moveTo c

def takeQuotedScalar (s : Scanner) (single : Bool) (rest : Text) : Option State := do
  let s ← s.maybeKey
  let (text, c) ← takeQuoted single ⟨s.mark.right 1, rest.drop 1⟩
  let style := if single then Style.singleQuoted else .doubleQuoted
  return ({ s with keyAllowed := false }.push (.scalar style text)).moveTo c

def takePlainScalar (s : Scanner) (rest : Text) : Option State := do
  let s ← s.maybeKey
  let found ← takePlain s.inFlow s.margin ⟨s.mark, rest⟩
  return ({ s with keyAllowed := found.broken }.push (.scalar .plain found.text)).moveTo found.next

/-- Begins no plain scalar. -/
def isIndicator (c : Char) : Bool := "-?:,[]\x7b\x7d#&*!|>\x27\"%@\x60".toList.contains c

/-- Begins a plain scalar: no indicator, or one that is followed by what makes it a word. -/
def beginsPlain (flow : Bool) (c : Char) (rest : Text) : Bool :=
  !(isSpace c || isIndicator c) || (c == '-' && !(rest.head?.map isBlank).getD false) ||
    (!flow && (c == '?' || c == ':') && !atSpace rest)

/-- The token at the scanner's place, which is no blank. -/
def takeToken (s : Scanner) (c : Char) (rest : Text) : Option State :=
  let t := c :: rest
  if s.mark.column = 0 ∧ c = '%' then s.takeDirectiveLine t
  else if atDocumentMark s.mark t then s.takeDocumentMark t
  else if c = '[' then s.openFlow .flowSequenceStart t
  else if c = '\x7b' then s.openFlow .flowMappingStart t
  else if c = ']' then s.closeFlow .flowSequenceEnd t
  else if c = '\x7d' then s.closeFlow .flowMappingEnd t
  else if c = ',' then s.takeFlowEntry t
  else if c = '-' ∧ atSpace rest then s.takeBlockEntry t
  else if c = '?' ∧ (s.inFlow || atSpace rest) then s.takeKey t
  else if c = ':' ∧ (s.inFlow || atSpace rest) then s.takeValue t
  else if c = '*' then s.takeName .alias t
  else if c = '&' then s.takeName .anchor t
  else if c = '!' then s.takeTagName t
  else if c = '|' ∧ !s.inFlow then s.takeBlockScalar false t
  else if c = '>' ∧ !s.inFlow then s.takeBlockScalar true t
  else if c = '\x27' then s.takeQuotedScalar true t
  else if c = '\x22' then s.takeQuotedScalar false t
  else if beginsPlain s.inFlow c rest then s.takePlainScalar t
  else none

/-- The tokens of a stream from a place on, with at most `fuel` of them in the text. -/
def run : Nat → Scanner → Text → Option (List Token)
  | 0, _, _ => none
  | fuel + 1, s, t =>
    let (allowed, c) := skip s.inFlow false s.keyAllowed s.mark t
    match { s with keyAllowed := allowed, mark := c.mark }.dropStale with
    | none => none
    | some s =>
      match c.rest with
      | [] => ((s.closeTo 0).noKey).map fun s => s.tokens.reverse
      | d :: rest =>
        match (s.closeTo (s.mark.column + 1)).takeToken d rest with
        | some (s, t) => run fuel s t
        | none => none

end Scanner

/-- The tokens of a stream.  Every token but those that follow from the others takes a character at least. -/
def Token.scan? (t : Text) : Option (List Token) := Scanner.run (t.length + 1) .start t

end Yaml
end FirmwareVars
