import FirmwareVars.Attributes
import FirmwareVars.Host.Path
/-!
# Store configuration

Where a store lives, and the attribute word of a write that gives none.  Settings come from three places, each of which
outranks the one before: the defaults, a document, and the environment (`overlay`).  Of the environment only text
counts, a root of blanks alone counts as none, and a word that cannot be read is an error that carries it.
-/
namespace FirmwareVars

structure Config where
  root : Path
  defaultAttributes : UInt32
  deriving DecidableEq

/-- What the environment says about a store, byte for byte. -/
structure Surroundings where
  root : Option Bytes
  defaultAttributes : Option Bytes
  deriving DecidableEq

/-- An environment value as text; one that is not text counts as absent. -/
def Surroundings.text? (value : Option Bytes) : Option Text := value.bind Utf8.decode?

/-- The name of the environment variable with the root. -/
def rootKey : Text := "EFIVAR_ROOT".toList

/-- The name of the environment variable with the default attribute word. -/
def attributesKey : Text := "EFIVAR_DEFAULT_ATTRIBUTES".toList

structure BadSetting where
  key : Text
  value : Text
  deriving DecidableEq

def BadSetting.message (e : BadSetting) : Text :=
  "Invalid value ".toList ++ Text.quote e.value ++ " for ".toList ++ e.key

namespace Config

/-- Where the kernel shows the variables of the firmware. -/
def standardRoot : Path := Path.ofText "/sys/firmware/efi/efivars".toList

/-- The settings when nothing is said. -/
def standard : Config := ⟨standardRoot, Attributes.standard.word⟩

/-- The standard settings over another root. -/
def withRoot (root : Path) : Config := { standard with root := root }

/-- The attribute word of a write that gives none. -/
def attributes (c : Config) : Attributes := ⟨c.defaultAttributes⟩

/-- The root that the environment names: a text that is not all blanks, taken as it stands. -/
def rootOf? (s : Surroundings) : Option Path :=
  match Surroundings.text? s.root with
  | some t => if Text.trim t = [] then none else some (Path.ofText t)
  | none => none

/-- The settings with what the environment says laid over them. -/
def overlay (c : Config) (s : Surroundings) : Except BadSetting Config :=
  let c := { c with root := (rootOf? s).getD c.root }
  match Surroundings.text? s.defaultAttributes with
  | none => .ok c
  | some t =>
    match Attributes.parse? t with
    | some word => .ok { c with defaultAttributes := word }
    | none => .error ⟨attributesKey, t⟩

def describe (c : Config) : Text :=
  "StoreConfig \x7b root: ".toList ++ c.root.quoted ++ ", default_attributes: ".toList ++
    Numeral.decimal c.defaultAttributes.toNat ++ " \x7d".toList

/-- The settings as a JSON object on one line; a root that is not UTF-8 has no such form. -/
def toJson? (c : Config) : Option Text :=
  (Utf8.decode? c.root.bytes).map fun root =>
    "\x7b\"root\":".toList ++ Json.quote root ++ ",\"default_attributes\":".toList ++
      Numeral.decimal c.defaultAttributes.toNat ++ "\x7d".toList

end Config
end FirmwareVars
