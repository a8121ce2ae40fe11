import FirmwareVars.Host.Failure
import FirmwareVars.Host.Path
import FirmwareVars.NamingError
/-!
# Statuses and store errors

What an operation came to has a status: a number for those who speak in error codes, a label for people, and a word for
documents.

What can go wrong between a caller and a store is a `StoreError`.  `message` words it, and `causes` is the chain of
words from the error down to what brought it about, the way a complaint spells it out.
-/
namespace FirmwareVars

/-! ## Statuses -/

/-- What an operation came to, as callers see it. -/
inductive Status
  | success
  | notFound
  | invalidIdentity
  | malformedEntryName
  | truncatedVariable
  | ioError
  deriving DecidableEq, Repr

namespace Status

def all : List Status := [.success, .notFound, .invalidIdentity, .malformedEntryName, .truncatedVariable, .ioError]

/-- The error code; the two kinds of bad data share one. -/
def code : Status → Nat
  | .success => 0
  | .notFound => 0xCB
  | .invalidIdentity => 0x57
  | .malformedEntryName => 0x0D
  | .truncatedVariable => 0x0D
  | .ioError => 0x1F

def isSuccess : Status → Bool
  | .success => true
  | _ => false

def label : Status → Text
  | .success => "success".toList
  | .notFound => "not found".toList
  | .invalidIdentity => "invalid identity".toList
  | .malformedEntryName => "malformed entry name".toList
  | .truncatedVariable => "truncated variable".toList
  | .ioError => "I/O error".toList

/-- An error code as `0x` and upper-case digits. -/
def codeText (n : Nat) : Text := "0x".toList ++ (Numeral.spell 16 n).map Char.toUpper

def describe (s : Status) : Text := s.label ++ " (".toList ++ codeText s.code ++ ")".toList

/-- The status as one word of a document. -/
def word : Status → Text
  | .success => "success".toList
  | .notFound => "not_found".toList
  | .invalidIdentity => "invalid_identity".toList
  | .malformedEntryName => "malformed_entry_name".toList
  | .truncatedVariable => "truncated_variable".toList
  | .ioError => "io_error".toList

def ofWord? (t : Text) : Option Status := all.find? fun s => s.word == t

example : Status.truncatedVariable.describe = "truncated variable (0xD)".toList := by decide +kernel

end Status

/-! ## Errors -/

/-- A step of the store's work that the host can refuse. -/
inductive Step
  | read
  | list
  | opening
  | write
  | delete
  /-- A step of a caller's own naming. -/
  | stated (name : Text)
  deriving DecidableEq

def Step.name : Step → Text
  | .read => "read".toList
  | .list => "list".toList
  | .opening => "open".toList
  | .write => "write".toList
  | .delete => "delete".toList
  | .stated name => name

inductive StoreError
  /-- The variable is absent, or the store itself. -/
  | notFound (path : Path)
  /-- The caller's identity has no entry name. -/
  | invalidIdentity (source : NamingError)
  /-- An entry of the store spells no identity. -/
  | malformedEntry (source : NamingError)
  /-- The file is too short for an attribute word. -/
  | truncated (path : Path) (length : Nat)
  /-- The host refused a step, for another reason than absence. -/
  | host (step : Step) (path : Path) (failure : Failure)
  deriving DecidableEq

namespace StoreError

/-- A naming error as the store reports it: a bad identity is the caller's, anything else is the store's. -/
def ofNaming : NamingError → StoreError
  | .identity fault => .invalidIdentity (.identity fault)
  | e => .malformedEntry e

/-- A refusal of the host as the store reports it where absence is not a failure. -/
def ofFailure (step : Step) (path : Path) : Failure → StoreError
  | .noEntry => .notFound path
  | failure => .host step path failure

def message : StoreError → Text
  | .notFound path => "Not found: ".toList ++ path.display
  | .invalidIdentity source => "Invalid variable identity: ".toList ++ source.message
  | .malformedEntry source => "Store entry rejected: ".toList ++ source.message
  | .truncated path length =>
    "Variable ".toList ++ path.display ++ " holds ".toList ++ Numeral.decimal length ++
      " bytes, too short for its attributes".toList
  | .host step path failure =>
    "I/O error during \x60".toList ++ step.name ++ "\x60 on ".toList ++ path.display ++ ": ".toList ++ failure.message

def status : StoreError → Status
  | .notFound _ => .notFound
  | .invalidIdentity _ => .invalidIdentity
  | .malformedEntry _ => .malformedEntryName
  | .truncated _ _ => .truncatedVariable
  | .host _ _ _ => .ioError

def code (e : StoreError) : Nat := e.status.code

/-- Absence, and nothing else. -/
def isNotFound : StoreError → Bool
  | .notFound _ => true
  | _ => false

/-- The error in words, and then what it came from. -/
def causes (e : StoreError) : List Text :=
  e.message :: match e with
    | .invalidIdentity source | .malformedEntry source => [source.message]
    | .host _ _ failure => [failure.message]
    | .notFound _ | .truncated _ _ => []

end StoreError
end FirmwareVars
