import FirmwareVars.Config
import FirmwareVars.Host.Script
import FirmwareVars.Yaml.Document
/-!
# Store configuration as a document

The settings as a YAML mapping.  `root` takes any scalar, as it is written; `default_attributes` takes an integer of 32
bits.  A setting that is missing keeps its standard value, one given twice is an error, and any other key is passed
over with its value.

An integer is a plain scalar, or a literal block that is tagged as one: decimal without leading zeros, or hexadecimal,
octal or binary after `0x`, `0o` or `0b`, and in each case perhaps a plus sign in front.
-/
namespace FirmwareVars
namespace Config

open FirmwareVars.Yaml (Document Part Resolved Style)

def integerTag : Bytes := Utf8.encode "tag:yaml.org,2002:int".toList

/-- May spell an integer. -/
def mayBeInteger (p : Yaml.Properties) : Style → Bool
  | .plain => true
  | .literal => p.tag == some integerTag
  | _ => false

/-- The number of a prefix and digits of its base, which bear no further sign. -/
def based? (mark : Char) (base : Nat) : Text → Option Nat
  | '0' :: c :: digits => if c = mark then Numeral.read? base digits else none
  | _ => none

/-- The number of decimal digits without leading zeros. -/
def plainDecimal? (digits : Text) : Option Nat :=
  if digits.length > 1 ∧ digits.head? = some '0' then none else Numeral.read? 10 digits

/-- The number that an unsigned integer spells. -/
def unsigned? (t : Text) : Option Nat :=
  let t := (Text.after? ['+'] t).getD t
  match based? 'x' 16 t, based? 'o' 8 t, based? 'b' 2 t with
  | some n, _, _ | none, some n, _ | none, none, some n => some n
  | none, none, none => plainDecimal? t

def textOf? : Part → Option Text
  | .scalar _ _ t => some t
  | _ => none

def wordOf? : Part → Option UInt32
  | .scalar p style t =>
    if mayBeInteger p style then
      match unsigned? t with
      | some n => if n < UInt32.size then some (UInt32.ofNat n) else none
      | none => none
    else none
  | _ => none

structure Given where
  root : Option Path
  defaultAttributes : Option UInt32
  deriving DecidableEq

/-- The settings of pairs, after some were already given. -/
def ofPairs? (d : Document) (given : Given) : List (Resolved × Resolved) → Option Given
  | [] => some given
  | (key, value) :: rest =>
    match (d.target? key).bind textOf? with
    | none => none
    | some name =>
      if name = "root".toList then
        match given.root, (d.target? value).bind textOf? with
        | none, some t => ofPairs? d { given with root := some (Path.ofText t) } rest
        | _, _ => none
      else if name = "default_attributes".toList then
        match given.defaultAttributes, (d.target? value).bind wordOf? with
        | none, some w => ofPairs? d { given with defaultAttributes := some w } rest
        | _, _ => none
      else ofPairs? d given rest

/-- The settings of a document; what it does not give is standard. -/
def ofDocument? (d : Document) : Option Config :=
  match d.pairs? with
  | none => none
  | some pairs =>
    (ofPairs? d ⟨none, none⟩ pairs).map fun given =>
      ⟨given.root.getD standard.root, given.defaultAttributes.getD standard.defaultAttributes⟩

def ofYaml? (t : Text) : Option Config := (Document.read? t).bind ofDocument?

end Config

/-! ## Files -/

inductive ConfigError
  | unreadable (path : Path) (failure : Failure)
  | malformed
  | badSetting (setting : BadSetting)
  deriving DecidableEq

namespace ConfigError

def message : ConfigError → Text
  | .unreadable path failure =>
    "Failed to read config ".toList ++ path.display ++ ": ".toList ++ failure.message
  | .malformed => "Invalid config YAML".toList
  | .badSetting setting => setting.message

/-- The error in words, and then what it came from. -/
def causes (e : ConfigError) : List Text :=
  e.message :: match e with
    | .unreadable _ failure => [failure.message]
    | .malformed | .badSetting _ => []

end ConfigError

namespace Config

variable {Handle : Type}

def load (path : Path) : Operation Handle ConfigError Config := do
  let raw ← Operation.ask (.readFile path) (.unreadable path)
  match Utf8.decode? raw with
  | none => throw (.unreadable path .notText)
  | some t =>
    match ofYaml? t with
    | some c => return c
    | none => throw .malformed

/-- The settings with the environment laid over them. -/
def overlaid (c : Config) (s : Surroundings) : Except ConfigError Config :=
  match c.overlay s with
  | .ok c => .ok c
  | .error e => .error (.badSetting e)

end Config
end FirmwareVars
