import FirmwareVars.CommandLine
import FirmwareVars.Config.Document
import FirmwareVars.Host.Machine
import FirmwareVars.Report
import FirmwareVars.Store
/-!
# The program

One run of the program: settings are resolved, a command is carried out on the store they name, and a report of it is
printed.  Printing is asked of the host, one request for each write, like anything else that a run has to do with it.

Settings are, in rising rank, the standard ones, those of the `--config` document, the environment and `--root`.  A run
that fails exits with the code of the store's status where the store failed, and with one where anything else did.
-/
namespace FirmwareVars
namespace Program

open FirmwareVars.CommandLine (Invocation Command)

inductive RunError
  | store (error : StoreError)
  /-- The settings of a document cannot be had. -/
  | loading (path : Path) (error : ConfigError)
  | settings (error : ConfigError)
  | payload (path : Path) (failure : Failure)
  | output (path : Path) (failure : Failure)
  /-- A buffer of name records cannot be read. -/
  | records (error : NamingError)
  /-- The standard output does not take what is printed. -/
  | printing (failure : Failure)
  deriving DecidableEq

namespace RunError

/-- The error in words, outermost first. -/
def causes : RunError → List Text
  | .store e => e.causes
  | .loading path e => ("loading config ".toList ++ path.display) :: e.causes
  | .settings e => e.causes
  | .payload path failure => ["reading payload ".toList ++ path.display, failure.message]
  | .output path failure => ["writing ".toList ++ path.display, failure.message]
  | .records e => [e.message]
  | .printing failure => [failure.message]

def message (e : RunError) : Text := Text.joinWith ": ".toList e.causes

def exitStatus : RunError → Nat
  | .store e => if e.code < 256 then e.code else 1
  | _ => 1

/-- What is said about a run that failed. -/
def complaint (e : RunError) : Text :=
  "efivarctl: ".toList ++ e.message ++ " (status ".toList ++ Status.codeText e.exitStatus ++ ")".toList

end RunError

variable {Handle : Type}

abbrev Work (Handle α : Type) := Operation Handle RunError α

/-- A step of the store's work as a step of a run. -/
def ofStore {α : Type} (o : Store.Work Handle α) : Work Handle α := Operation.mapError .store o

/-- The settings that the document of an invocation gives. -/
def document (inv : Invocation) : Work Handle Config :=
  match inv.config with
  | some path => Operation.mapError (.loading path) (Config.load path)
  | none => pure Config.standard

def resolve (inv : Invocation) (s : Surroundings) : Work Handle Config := do
  let base ← document inv
  match base.overlaid s with
  | .error e => throw (.settings e)
  | .ok c =>
    let c := { c with root := inv.root.getD c.root }
    Operation.tell (.resolvedConfig c)
    return c

def save (path : Path) (bytes : Bytes) : Work Handle Unit := do
  let file ← Operation.ask (.openEmptied path) (.output path)
  Operation.ask (.writeAll file bytes) (.output path)

/-! ## Printing -/

/-- Prints bytes in one write. -/
def write (bytes : Bytes) : Work Handle Unit := Operation.ask (.print bytes) .printing

/-- Prints texts, each in a write of its own. -/
def print : List Text → Work Handle Unit
  | [] => return ()
  | t :: ts => do
    write (Utf8.encode t)
    print ts

/-! ## Commands -/

/-- Carries a command out on a store, and prints a report of it. -/
def execute (s : Store) : Command → Work Handle Unit
  | .get i true => do
    let raw ← ofStore (s.read i)
    write raw
  | .get i false => do
    let v ← ofStore (s.readVariable i)
    print (Report.content i v)
  | .set i file attributes => do
    let payload ← Operation.ask (.readFile file) (.payload file)
    match ← ofStore (s.write i (some payload) (attributes.map Attributes.mk)) with
    | .written bytes => print [Report.written i bytes]
    | _ => return ()
  | .delete i => do
    let outcome ← ofStore (s.delete i)
    print [Report.deleted i (outcome = .deleted)]
  | .list json => do
    let found ← ofStore s.list
    print (if json then [Report.json found] else Report.table found)
  | .names out decode => do
    let buffer ← ofStore s.packedNames
    if decode then
      match NameRecord.decode buffer with
      | .ok records => print (Report.records records)
      | .error e => throw (.records e)
    else match out with
      | some path =>
        save path buffer
        print [Report.saved path buffer.length]
      | none => write buffer

def run (inv : Invocation) (s : Surroundings) : Work Handle Unit := do
  let config ← resolve inv s
  execute ⟨config⟩ inv.command
  Operation.ask .flush .printing

/-! ## Endings -/

def exitStatus : Except RunError Unit → Nat
  | .ok () => 0
  | .error e => e.exitStatus

def complaint? : Except RunError Unit → Option Text
  | .ok () => none
  | .error e => some e.complaint

/-- How a run ends for its caller. -/
structure Ending where
  status : Nat
  /-- All that was printed. -/
  output : Bytes
  complaint : Option Text
  deriving DecidableEq

/-- The ending of a run that came to this, and left a machine like this. -/
def Ending.of : Except RunError Unit × Machine → Ending
  | (x, after) => ⟨exitStatus x, after.printed.flatten, complaint? x⟩

/-- The ending of a run on a machine.  A run has a standard output of its own, so nothing is printed before. -/
def ending (m : Machine) (inv : Invocation) (s : Surroundings) : Ending :=
  .of (Machine.run { m with printed := [] } (run inv s).run)

end Program
end FirmwareVars
