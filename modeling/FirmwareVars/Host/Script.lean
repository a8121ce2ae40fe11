import FirmwareVars.Config
import FirmwareVars.Host.Failure
import FirmwareVars.NamingError
/-!
# Scripts

Work that needs the host is written as a script: a tree of requests, where what comes next depends on the answer to the
last one.  A script does nothing by itself.  `Script.perform` carries it out with any way of answering requests: the
program answers from the host's own files, and `Machine` answers from files that are a value.

`Operation` is a script that may end in an error.

An `Event` is what the library tells about its work while it works, with the values that it is about.  How an event is
worded, which of them are wanted and in which layout they are written are matters of the log.
-/
namespace FirmwareVars

/-! ## Events -/

inductive Event
  | resolvedConfig (config : Config)
  | readVariable (path : Path) (bytes : Nat)
  | wroteVariable (path : Path) (attributes : Attributes) (bytes : Nat)
  | deletedVariable (path : Path)
  | nothingToDelete (path : Path)
  /-- An entry name that is not text stopped an enumeration. -/
  | unreadableEntry (shown : Text)
  /-- An entry name that spells no identity stopped an enumeration. -/
  | malformedEntry (entry : Text) (error : NamingError)
  | listedStore (root : Path) (count : Nat)
  | packedNames (records : Nat) (bytes : Nat)
  | enumeratedNames (root : Path) (records : Nat) (bytes : Nat)
  | startedSandbox (root : Path)
  | seededEntry (entry : Text) (bytes : Nat)
  deriving DecidableEq

/-! ## Requests and scripts -/

/-- What can be asked of the host, and the type of the answer.  `Handle` is what the host returns for an open file. -/
inductive Request (Handle : Type) : Type → Type 1
  | readFile (path : Path) : Request Handle (Except Failure Bytes)
  /-- The entry names of a directory, in the host's order. -/
  | readDirectory (path : Path) : Request Handle (Except Failure (List Bytes))
  /-- Opens a file for writing: it is created if missing, and emptied. -/
  | openEmptied (path : Path) : Request Handle (Except Failure Handle)
  /-- Writes all the bytes to a file just opened, from its start. -/
  | writeAll (handle : Handle) (bytes : Bytes) : Request Handle (Except Failure Unit)
  | removeFile (path : Path) : Request Handle (Except Failure Unit)
  /-- Creates a directory with the directories above it; one that is there already is left alone. -/
  | createDirectories (path : Path) : Request Handle (Except Failure Unit)
  | removeTree (path : Path) : Request Handle (Except Failure Unit)
  /-- Writes all the bytes to the standard output, behind those that were written before. -/
  | print (bytes : Bytes) : Request Handle (Except Failure Unit)
  /-- Has the standard output pass on what it still holds back. -/
  | flush : Request Handle (Except Failure Unit)
  | tell (event : Event) : Request Handle Unit

/-- A tree of requests that ends in a value. -/
inductive Script (Handle : Type) (α : Type) : Type 1
  | done (a : α)
  | ask {β : Type} (request : Request Handle β) (next : β → Script Handle α)

namespace Script

variable {Handle : Type} {α β : Type}

/-- Goes on with `f` where `s` ends. -/
def bind : Script Handle α → (α → Script Handle β) → Script Handle β
  | .done a, f => f a
  | .ask request next, f => .ask request fun answer => (next answer).bind f

instance : Monad (Script Handle) where
  pure := .done
  bind := .bind

def request (r : Request Handle α) : Script Handle α := .ask r .done

/-- Carries a script out, with a given way of answering. -/
def perform {m : Type → Type} [Monad m] (answer : {β : Type} → Request Handle β → m β) :
    Script Handle α → m α
  | .done a => pure a
  | .ask request next => do perform answer (next (← answer request))

end Script

/-- A script that ends in a value or in an error. -/
abbrev Operation (Handle ε α : Type) := ExceptT ε (Script Handle) α

namespace Operation

variable {Handle ε α : Type}

/-- A request whose failure is an error of the operation. -/
def ask (r : Request Handle (Except Failure α)) (blame : Failure → ε) : Operation Handle ε α :=
  ExceptT.mk (do
    match ← Script.request r with
    | .ok a => pure (.ok a)
    | .error failure => pure (.error (blame failure)))

def tell (event : Event) : Operation Handle ε Unit := ExceptT.lift (Script.request (.tell event))

def mapError {ε' : Type} (f : ε → ε') (o : Operation Handle ε α) : Operation Handle ε' α :=
  ExceptT.mk (do
    match ← o.run with
    | .ok a => pure (.ok a)
    | .error e => pure (.error (f e)))

end Operation
end FirmwareVars
