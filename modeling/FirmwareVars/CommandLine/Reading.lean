import FirmwareVars.CommandLine.Options
/-!
# Command-line arguments

How options stand in arguments.  An option takes its value from the same argument (`--name=x`, `-n=x`, `-nx`) or from
the next one, which must not begin with a dash.  The value of an option is looked at when the next option comes or when
the arguments are over, so of two mistakes the one that is looked at first is reported; a name that is no option is
reported at once.
-/
namespace FirmwareVars
namespace CommandLine

/-- An option whose value has not been looked at, with the value once there is one. -/
abbrev Pending := Option (Opt × Option Bytes)

/-- What was given so far, and the option that is still to be looked at. -/
structure Reading where
  given : Given
  pending : Pending

namespace Reading

def start : Reading := ⟨.nothing, none⟩

/-- Whether the last option has no value yet. -/
def isWaiting (r : Reading) : Bool :=
  match r.pending with
  | some (_, none) => true
  | _ => false

def settle (r : Reading) : Except UsageError Given :=
  match r.pending with
  | none => .ok r.given
  | some (_, none) => .error .invalidValue
  | some (o, some value) => r.given.take o value

/-- Takes an option that has its value, if it needs one, in the same argument. -/
def takeNow (r : Reading) (o : Opt) (value : Bytes) : Except UsageError Reading := do
  let given ← r.settle
  return ⟨← given.take o value, none⟩

/-- Takes an option whose value is the next argument. -/
def takeLater (r : Reading) (o : Opt) : Except UsageError Reading := do
  let given ← r.settle
  return ⟨given, some (o, none)⟩

/-- Takes an option with the value in its argument, if there is one. -/
def takeOption (r : Reading) (o : Opt) (attached : Option Bytes) : Except UsageError Reading :=
  match o.isFlag, attached with
  | true, none => r.takeNow o []
  | true, some _ => .error .unwantedValue
  | false, some value => r.takeNow o value
  | false, none => r.takeLater o

end Reading

/-- The byte between an option and its value. -/
def equalsSign : UInt8 := 0x3D

/-- The option of a long name with the value behind an equals sign. -/
def takeLong (options : List Opt) (r : Reading) (body : Bytes) : Except UsageError Reading :=
  let name := body.takeWhile (· != equalsSign)
  let attached := match body.dropWhile (· != equalsSign) with
    | _ :: value => some value
    | [] => none
  match options.find? fun o => Utf8.encode o.long == name with
  | some o => r.takeOption o attached
  | none => .error .unknownArgument

/-- The option of a letter with the value behind it, for which an equals sign may or may not come first. -/
def takeShort (options : List Opt) (r : Reading) (letter : UInt8) (body : Bytes) : Except UsageError Reading :=
  match options.find? fun o => (o.short?.map fun c => c.toNat) == some letter.toNat with
  | some o =>
    if o.isFlag then r.takeNow o []
    else match body with
      | [] => r.takeLater o
      | b :: rest => r.takeNow o (if b = equalsSign then rest else b :: rest)
  | none => .error .unknownArgument

def dash : UInt8 := 0x2D

/-- What an argument is by its form. -/
inductive Form
  /-- Two dashes: no option comes after them. -/
  | divider
  | long (body : Bytes)
  | short (letter : UInt8) (body : Bytes)
  | plain

/-- The form of an argument; a single dash is no option. -/
def Form.of : Bytes → Form
  | a :: b :: rest =>
    if a = dash then
      if b = dash then (if rest = [] then .divider else .long rest) else .short b rest
    else .plain
  | _ => .plain

end CommandLine
end FirmwareVars
