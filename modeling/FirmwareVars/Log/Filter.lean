import FirmwareVars.Log.Pattern
import FirmwareVars.Log.Record
/-!
# Log filters

Which records are wanted, as people write it: directives with commas between them, each of them

* a level, which goes for every target;
* a target, alone or with `=` and a level;
* either of these with a span and field names in brackets, `target[span{field,field=value}]=level`.

The library opens no spans and compares no field values, so a directive that names either never lets a record through;
but a value has to be one, and a value that is a text is a pattern.
Of the others, the most specific one that covers a record decides: the one with the longest target, then with the
most fields; a directive for the same target and fields as an earlier one takes its place.
-/
namespace FirmwareVars
namespace Log

/-- A field that a directive asks for. -/
structure Wanted where
  name : Text
  /-- Whether it asks for a value too. -/
  valued : Bool
  deriving DecidableEq

/-- One directive.  Its ceiling is the rank of the last level that it lets through; zero lets nothing through. -/
structure Directive where
  target : Option Text
  span : Option Text
  fields : List Wanted
  ceiling : Nat
  deriving DecidableEq

/-- The ceiling of a directive that gives no level: everything. -/
def openCeiling : Nat := 5

/-- The ceiling that a word or a number stands for; words count in either case of their letters. -/
def ceiling? (t : Text) : Option Nat :=
  match Numeral.readSigned? 10 t with
  | some n => if n ≤ openCeiling then some n else none
  | none =>
    if Text.sameLetters t "off".toList then some 0
    else ([Level.error, .warn, .info, .debug, .trace].find? fun l => Text.sameLetters t l.name).map Level.rank

namespace Directive

def blank : Directive := ⟨none, none, [], openCeiling⟩

/-- Where the scan of a directive stands; a number is where the part being read began. -/
inductive Stage
  | start
  | word (first : Nat)
  | span (first : Nat)
  | field (first : Nat)
  | fields
  | target
  | level (first : Nat)

/-- May begin a directive: a letter, a number, or one of three marks. -/
def canStart (c : Char) : Bool := Text.isAlphanumeric c || c == '-' || c == ':' || c == '_'

/-- A field as written: its name, and a value if there is one; what stands behind another equals sign does not
count. -/
def wanted? (t : Text) : Option Wanted :=
  if t = [] then none
  else match Text.splitOn '=' t with
    | name :: value :: _ => if Pattern.isComparand value then some ⟨name, true⟩ else none
    | [name] => some ⟨name, false⟩
    | [] => none

/-- One step of a scan: the character at position `i`, with `cut a b` for the text between two positions. -/
def step (cut : Nat → Nat → Option Text) (i : Nat) (c : Char) (d : Directive) :
    Stage → Option (Directive × Stage)
  | .start =>
    if c = '[' then some (d, .span (i + 1)) else if canStart c then some (d, .word i) else none
  | .word first =>
    if c = '=' then (cut first i).map fun t => ({ d with target := some t }, .level (i + 1))
    else if c = '[' then (cut first i).map fun t => ({ d with target := some t }, .span (i + 1))
    else some (d, .word first)
  | .span first =>
    if c = ']' then (cut first i).map fun t => ({ d with span := some t }, .target)
    else if c = '\x7b' then
      (cut first i).map fun t => ({ d with span := if t = [] then none else some t }, .field (i + 1))
    else some (d, .span first)
  | .field first =>
    if c = '\x7d' then
      ((cut first i).bind wanted?).map fun f => ({ d with fields := d.fields ++ [f] }, .fields)
    else if c = ',' then
      ((cut first i).bind wanted?).map fun f => ({ d with fields := d.fields ++ [f] }, .field (i + 1))
    else some (d, .field first)
  | .fields => if c = ']' then some (d, .target) else none
  | .target => if c = '=' then some (d, .level (i + 1)) else none
  | .level first => some (d, .level first)

/-- What a scan has found at its end, with `rest a` for the text from a position on. -/
def finish (rest : Nat → Option Text) (d : Directive) : Stage → Option Directive
  | .word first => (rest first).map fun word =>
    if word = [] then { d with target := none, ceiling := openCeiling }
    else match ceiling? word with
      | some n => { d with target := none, ceiling := n }
      | none => { d with target := some word, ceiling := openCeiling }
  | .level first => (rest first).bind fun word =>
    if word = [] then some { d with ceiling := openCeiling }
    else (ceiling? word).map fun n => { d with ceiling := n }
  | .target => some d
  | _ => none

def scan (source : Text) : Nat → Text → Directive → Stage → Option Directive
  | _, [], d, stage => finish (Utf8.drop? · source) d stage
  | i, c :: cs, d, stage =>
    match step (fun a b => (Utf8.drop? a source).bind (Utf8.take? (b - a))) i c d stage with
    | some (d, stage) => scan source (i + c.utf8Size) cs d stage
    | none => none

/-- The directive that a text spells.  The blanks around it are not scanned, but positions are those of the bytes of the
text as it stands, so blanks in front push every part out of its place. -/
def parse? (t : Text) : Option Directive := scan t 0 (Text.trim t) blank .start

/-- Whether a directive bears on records at all. -/
def bearsOnRecords (d : Directive) : Bool := d.span.isNone && d.fields.all fun f => !f.valued

/-- Covers a record: its target begins with the directive's, and it has the fields that the directive asks for. -/
def covers (d : Directive) (r : Record) : Bool :=
  (match d.target with
    | some t => t.isPrefixOf r.target
    | none => true) &&
  d.fields.all fun f => f.name == "message".toList || r.fields.any fun g => g.name == f.name

/-- How much of the target a directive fixes; one without a target fixes less than an empty one. -/
def reach (d : Directive) : Nat :=
  match d.target with
  | some t => (Utf8.encode t).length + 1
  | none => 0

/-- Decides no later than another one that covers the same records. -/
def outranks (d e : Directive) : Bool :=
  if d.reach ≠ e.reach then e.reach < d.reach
  else if d.fields.length ≠ e.fields.length then e.fields.length < d.fields.length
  else !decide (d.fields.map Wanted.name < e.fields.map Wanted.name)

end Directive

/-- The directives in force, as they were written. -/
structure Filter where
  directives : List Directive
  deriving DecidableEq

namespace Filter

/-- The directives of all the parts, if each of them is one. -/
def collect? : List Text → Option (List Directive)
  | [] => some []
  | part :: parts =>
    match Directive.parse? part, collect? parts with
    | some d, some ds => some (d :: ds)
    | _, _ => none

/-- The filter that lets everything through up to a level. -/
def upTo (l : Level) : Filter := ⟨[{ Directive.blank with ceiling := l.rank }]⟩

/-- The filter that a text spells; empty parts do not count, and without any part only errors are let through. -/
def parse? (t : Text) : Option Filter :=
  match (Text.splitOn ',' t).filter (· ≠ []) with
  | [] => some (upTo .error)
  | parts => (collect? parts).map Filter.mk

/-- The filter that the environment asks for; without a text that spells one it is everything up to information. -/
def ofEnvironment (value : Option Bytes) : Filter :=
  ((value.bind Utf8.decode?).bind parse?).getD (upTo .info)

/-- The directive that decides about a record. -/
def deciding? (f : Filter) (r : Record) : Option Directive :=
  (f.directives.filter fun d => d.bearsOnRecords && d.covers r).foldl
    (fun best d => match best with
      | some e => if d.outranks e then some d else some e
      | none => some d) none

def admits (f : Filter) (r : Record) : Bool :=
  match f.deciding? r with
  | some d => r.level.rank ≤ d.ceiling
  | none => false

end Filter
end Log
end FirmwareVars
