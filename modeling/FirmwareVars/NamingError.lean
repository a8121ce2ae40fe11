import FirmwareVars.Text.Quoted
/-!
# Naming errors

What can be wrong with an identity that has to be written, an entry name that has to be read, or a packed record.
Each error names its cause, and `message` is the one place where causes are worded.
-/
namespace FirmwareVars

/-- Why an identity has no written form. -/
inductive IdentityFault
  | emptyName
  /-- The name has a path separator or a NUL. -/
  | unsafeName (name : Text)
  /-- The record is too long for the offset that another record needs. -/
  | longRecord (name : Text) (length : Nat)
  /-- A cause in the caller's own words. -/
  | stated (reason : Text)
  deriving DecidableEq

/-- Why a text is no entry name. -/
inductive EntryFault
  | fewSegments (found : Nat)
  | badGroup (group : Text) (width : Nat)
  /-- Groups of the right widths that spell no GUID.  There are none, so what the reader of GUIDs would say of them is left
  out of the message. -/
  | unreadableGuid
  | emptyName
  | notText
  | stated (reason : Text)
  deriving DecidableEq

inductive RecordFault
  | shortHeader (left : Nat)
  | shortOffset (offset : Nat)
  | finalOffset
  | overrun (offset : Nat)
  | splitUnit
  | brokenPair
  | stated (reason : Text)
  deriving DecidableEq

/-- An error in the naming of variables. -/
inductive NamingError
  | identity (fault : IdentityFault)
  | entry (entry : Text) (fault : EntryFault)
  | record (offset : Nat) (fault : RecordFault)
  deriving DecidableEq

/-- How many hyphen-separated segments a GUID takes. -/
def guidSegments : Nat := 5

/-- How many bytes stand before the name of a record: the offset field and the GUID field. -/
def recordHeader : Nat := 20

def IdentityFault.message : IdentityFault → Text
  | .emptyName => "variable name is empty".toList
  | .unsafeName name => "variable name ".toList ++ Text.quote name ++ " contains a path separator or NUL".toList
  | .longRecord name length =>
    "record for ".toList ++ Text.quote name ++ " is ".toList ++ Numeral.decimal length ++
      " bytes, beyond a u32 offset".toList
  | .stated reason => reason

def EntryFault.message : EntryFault → Text
  | .fewSegments found =>
    "expected at least ".toList ++ Numeral.decimal guidSegments ++ " hyphen-separated segments, found ".toList ++
      Numeral.decimal found
  | .badGroup group width =>
    "GUID group ".toList ++ Text.quote group ++ " is not ".toList ++ Numeral.decimal width ++ " hex digits".toList
  | .unreadableGuid => "invalid GUID".toList
  | .emptyName => "variable name is empty".toList
  | .notText => "entry name is not valid UTF-8".toList
  | .stated reason => reason

def RecordFault.message : RecordFault → Text
  | .shortHeader left =>
    Numeral.decimal left ++ " bytes left, header needs ".toList ++ Numeral.decimal recordHeader
  | .shortOffset offset => "offset ".toList ++ Numeral.decimal offset ++ " is shorter than the header".toList
  | .finalOffset => "final record must carry a zero offset".toList
  | .overrun offset => "offset ".toList ++ Numeral.decimal offset ++ " overruns buffer".toList
  | .splitUnit => "name splits a UTF-16 code unit".toList
  | .brokenPair => "name is not valid UTF-16".toList
  | .stated reason => reason

def NamingError.message : NamingError → Text
  | .identity fault => "Invalid variable identity: ".toList ++ fault.message
  | .entry text fault => "Malformed entry name ".toList ++ Text.quote text ++ ": ".toList ++ fault.message
  | .record offset fault =>
    "Malformed name record at offset ".toList ++ Numeral.decimal offset ++ ": ".toList ++ fault.message

end FirmwareVars
