import FirmwareVars.Yaml.Token
/-!
# YAML parts

A document as the parts that its nodes are written in: a scalar and an alias are one part, a collection is an opening
part, the parts of its items and a closing one.  What a token list leaves out, the empty scalars of missing keys,
values and items, is there among the parts.

`ofTokens?` reads the one document that a stream may have.  The functions above it follow the grammar of a document:
each takes a phrase from the front of the tokens and returns its parts with the tokens behind it.
-/
namespace FirmwareVars
namespace Yaml

/-- What is written in front of a node. -/
structure Properties where
  anchor : Option Text
  tag : Option Bytes
  deriving DecidableEq

def Properties.none : Properties := ⟨.none, .none⟩

inductive Part
  | scalar (properties : Properties) (style : Style) (text : Text)
  | alias (name : Text)
  | sequence (properties : Properties)
  | mapping (properties : Properties)
  | close
  deriving DecidableEq

namespace Part

/-- The scalar that stands for nothing. -/
def empty (p : Properties) : Part := .scalar p .plain []

def missing : Part := empty .none

/-- Takes a phrase from the front of the tokens. -/
abbrev Phrase := List Token → Option (List Part × List Token)

/-- The full name of a tag, if its handle is known. -/
def tagName? (rules : List TagRule) (t : TagName) : Option Bytes :=
  if t.handle = [] then some t.suffix
  else (rules.find? fun r => r.handle == t.handle).map fun r => r.lead ++ t.suffix

/-- The anchor and the tag at the front, in either order. -/
def takeProperties (rules : List TagRule) : List Token → Option (Properties × List Token)
  | .anchor a :: .tag t :: rest => (tagName? rules t).map fun name => (⟨some a, some name⟩, rest)
  | .tag t :: .anchor a :: rest => (tagName? rules t).map fun name => (⟨some a, some name⟩, rest)
  | .anchor a :: rest => some (⟨some a, none⟩, rest)
  | .tag t :: rest => (tagName? rules t).map fun name => (⟨none, some name⟩, rest)
  | rest => some (.none, rest)

/-- Puts parts in front of what a phrase takes. -/
def after (parts : List Part) (more : Option (List Part × List Token)) : Option (List Part × List Token) :=
  more.map fun (rest, tokens) => (parts ++ rest, tokens)

def andThen (first : Option (List Part × List Token)) (next : Phrase) : Option (List Part × List Token) :=
  match first with
  | some (parts, tokens) => after parts (next tokens)
  | none => none

/-- Stands behind a key or a value that is missing, in a block mapping. -/
def endsBlockPair : List Token → Bool
  | .key :: _ | .value :: _ | .blockEnd :: _ => true
  | _ => false

/-- Stands behind an item that is missing, in a block sequence. -/
def endsBlockItem : List Token → Bool
  | .blockEntry :: _ | .blockEnd :: _ => true
  | _ => false

/-- Stands behind a key or a value that is missing, in braces. -/
def endsFlowPair (afterKey : Bool) : List Token → Bool
  | .value :: _ => afterKey
  | .flowEntry :: _ | .flowMappingEnd :: _ => true
  | _ => false

/-- Stands behind a key or a value that is missing, in an item of brackets that is a pair. -/
def endsItemPair (afterKey : Bool) : List Token → Bool
  | .value :: _ => afterKey
  | .flowEntry :: _ | .flowSequenceEnd :: _ => true
  | _ => false

mutual

/-- A node; `block` is whether it may be a block collection, and `bare` whether it may be a sequence whose items are
not indented. -/
def takeNode (rules : List TagRule) : Nat → Bool → Bool → Phrase
  | 0, _, _, _ => none
  | _ + 1, _, _, .alias name :: rest => some ([.alias name], rest)
  | fuel + 1, block, bare, tokens =>
    match takeProperties rules tokens with
    | none => none
    | some (p, tokens) =>
      match bare, block, tokens with
      | true, _, .blockEntry :: _ => after [.sequence p] (takeBareItems rules fuel tokens)
      | _, _, .scalar style text :: rest => some ([.scalar p style text], rest)
      | _, _, .flowSequenceStart :: rest => after [.sequence p] (takeFlowItems rules fuel true rest)
      | _, _, .flowMappingStart :: rest => after [.mapping p] (takeFlowPairs rules fuel true rest)
      | _, true, .blockSequenceStart :: rest => after [.sequence p] (takeBlockItems rules fuel rest)
      | _, true, .blockMappingStart :: rest => after [.mapping p] (takeBlockPairs rules fuel rest)
      | _, _, rest => if p = .none then none else some ([empty p], rest)

/-- The items of a block sequence and its end. -/
def takeBlockItems (rules : List TagRule) : Nat → Phrase
  | fuel + 1, .blockEntry :: rest =>
    if endsBlockItem rest then after [missing] (takeBlockItems rules fuel rest)
    else andThen (takeNode rules fuel true false rest) (takeBlockItems rules fuel)
  | _ + 1, .blockEnd :: rest => some ([.close], rest)
  | _, _ => none

/-- The items of a sequence that is not indented; it ends where no further item begins. -/
def takeBareItems (rules : List TagRule) : Nat → Phrase
  | 0, _ => none
  | fuel + 1, .blockEntry :: rest =>
    if endsBlockItem rest || endsBlockPair rest then after [missing] (takeBareItems rules fuel rest)
    else andThen (takeNode rules fuel true false rest) (takeBareItems rules fuel)
  | _ + 1, rest => some ([.close], rest)

/-- The pairs of a block mapping and its end, from a key on. -/
def takeBlockPairs (rules : List TagRule) : Nat → Phrase
  | fuel + 1, .key :: rest =>
    if endsBlockPair rest then after [missing] (takeBlockValue rules fuel rest)
    else andThen (takeNode rules fuel true true rest) (takeBlockValue rules fuel)
  | _ + 1, .blockEnd :: rest => some ([.close], rest)
  | _, _ => none

/-- The value of a pair of a block mapping, and the pairs behind it. -/
def takeBlockValue (rules : List TagRule) : Nat → Phrase
  | 0, _ => none
  | fuel + 1, .value :: rest =>
    if endsBlockPair rest then after [missing] (takeBlockPairs rules fuel rest)
    else andThen (takeNode rules fuel true true rest) (takeBlockPairs rules fuel)
  | fuel + 1, rest => after [missing] (takeBlockPairs rules fuel rest)

/-- The items in brackets and the closing one; `first` while there was none yet.  An item may be a single pair. -/
def takeFlowItems (rules : List TagRule) : Nat → Bool → Phrase
  | 0, _, _ => none
  | _ + 1, _, .flowSequenceEnd :: rest => some ([.close], rest)
  | fuel + 1, false, .flowEntry :: rest => takeFlowItems rules fuel true rest
  | _ + 1, false, _ => none
  | fuel + 1, true, .key :: rest =>
    after [.mapping .none]
      (if endsItemPair true rest then after [missing] (takeItemValue rules fuel (rest.drop 1))
        else andThen (takeNode rules fuel false false rest) (takeItemValue rules fuel))
  | fuel + 1, true, rest => andThen (takeNode rules fuel false false rest) (takeFlowItems rules fuel false)

/-- The value of an item that is a pair, and the items behind it. -/
def takeItemValue (rules : List TagRule) : Nat → Phrase
  | 0, _ => none
  | fuel + 1, .value :: rest =>
    if endsItemPair false rest then after [missing, .close] (takeFlowItems rules fuel false rest)
    else andThen (takeNode rules fuel false false rest) fun rest => after [.close] (takeFlowItems rules fuel false rest)
  | fuel + 1, rest => after [missing, .close] (takeFlowItems rules fuel false rest)

/-- The pairs in braces and the closing one; `first` while there was none yet. -/
def takeFlowPairs (rules : List TagRule) : Nat → Bool → Phrase
  | 0, _, _ => none
  | _ + 1, _, .flowMappingEnd :: rest => some ([.close], rest)
  | fuel + 1, false, .flowEntry :: rest => takeFlowPairs rules fuel true rest
  | _ + 1, false, _ => none
  | fuel + 1, true, .key :: rest =>
    if endsFlowPair true rest then after [missing] (takeFlowValue rules fuel rest)
    else andThen (takeNode rules fuel false false rest) (takeFlowValue rules fuel)
  | fuel + 1, true, rest =>
    andThen (takeNode rules fuel false false rest) fun rest => after [missing] (takeFlowPairs rules fuel false rest)

/-- The value of a pair in braces, and the pairs behind it. -/
def takeFlowValue (rules : List TagRule) : Nat → Phrase
  | 0, _ => none
  | fuel + 1, .value :: rest =>
    if endsFlowPair false rest then after [missing] (takeFlowPairs rules fuel false rest)
    else andThen (takeNode rules fuel false false rest) (takeFlowPairs rules fuel false)
  | fuel + 1, rest => after [missing] (takeFlowPairs rules fuel false rest)

end

/-! ## Documents -/

/-- What the directives of a document say. -/
structure Preamble where
  version : Option (Nat × Nat)
  rules : List TagRule

/-- The handles that every document knows, unless it gives them another meaning. -/
def standardRules : List TagRule :=
  [⟨['!'], Utf8.encode ['!']⟩, ⟨['!', '!'], Utf8.encode "tag:yaml.org,2002:".toList⟩]

/-- Takes the directives at the front; each handle, and the version, may be given once. -/
def takeDirectives (seen : Preamble) : List Token → Option (Preamble × List Token)
  | .directive (.version major minor) :: rest =>
    if seen.version.isSome ∨ major ≠ 1 ∨ (minor ≠ 1 ∧ minor ≠ 2) then none
    else takeDirectives { seen with version := some (major, minor) } rest
  | .directive (.tag rule) :: rest =>
    if seen.rules.any fun r => r.handle == rule.handle then none
    else takeDirectives { seen with rules := seen.rules ++ [rule] } rest
  | rest => some (seen, rest)

/-- Nothing but marks of the end of a document. -/
def isOver : List Token → Bool
  | .documentEnd :: rest => isOver rest
  | [] => true
  | _ => false

/-- Ends a document that has no node. -/
def endsDocument : List Token → Bool
  | [] | .directive _ :: _ | .documentStart :: _ | .documentEnd :: _ => true
  | _ => false

/-- The node of a document, and nothing behind it. -/
def takeOnly (rules : List TagRule) (tokens : List Token) : Option (List Part) :=
  match takeNode (rules ++ standardRules) (2 * tokens.length + 2) true false tokens with
  | some (parts, rest) => if isOver rest then some parts else none
  | none => none

/-- The parts of the document of a stream: none for a stream without a document. -/
def ofTokens? (tokens : List Token) : Option (List Part) :=
  match takeDirectives ⟨none, []⟩ tokens with
  | none => none
  | some (preamble, .documentStart :: rest) =>
    if endsDocument rest then (if isOver rest then some [missing] else none)
    else takeOnly preamble.rules rest
  | some (preamble, rest) =>
    if preamble.version.isSome ∨ preamble.rules ≠ [] then none
    else if rest = [] then some []
    else takeOnly [] rest

end Part
end Yaml
end FirmwareVars
