import FirmwareVars.Store
/-!
# Sandboxes

A throw-away store for trials: a fresh directory under the host's temporary one, of the same shape as the firmware's.
`seed` and `seedRaw` put files there without going through a store, `rawEntry` and `entries` look at what is there, and
`close` removes the directory unless it is to be kept.

A sandbox does not check names: an entry may be anything that the host takes for a path.
-/
namespace FirmwareVars

structure Sandbox where
  root : Path
  kept : Bool
  deriving DecidableEq

/-- What went wrong in a sandbox: the failure, under what was being done where that is told. -/
structure SandboxError where
  context : Option Text
  failure : Failure
  deriving DecidableEq

def SandboxError.message (e : SandboxError) : Text :=
  match e.context with
  | some context => context ++ ": ".toList ++ e.failure.message
  | none => e.failure.message

namespace Sandbox

/-- What makes a sandbox's name unlike any other: the number of the process, and a token drawn at random. -/
structure Mark where
  process : Nat
  token : Text
  deriving DecidableEq

variable {Handle : Type}

/-- The path of a sandbox below the temporary directory; the label is there for the reader. -/
def rootPath (temporary : Path) (label : Text) (mark : Mark) : Path :=
  temporary.join (Path.ofText
    ("sim-efivarfs-".toList ++ label ++ ['-'] ++ Numeral.decimal mark.process ++ ['-'] ++ mark.token))

/-- A path below the temporary directory at which nothing is ever made. -/
def missingRoot (temporary : Path) (label : Text) (token : Text) : Path :=
  temporary.join (Path.ofText ("sim-efivarfs-missing-".toList ++ label ++ ['-'] ++ token))

def start (temporary : Path) (label : Text) (mark : Mark) : Operation Handle SandboxError Sandbox := do
  let root := rootPath temporary label mark
  Operation.ask (.createDirectories root)
    fun failure => ⟨some ("creating simulated efivarfs at ".toList ++ root.display), failure⟩
  Operation.tell (.startedSandbox root)
  return ⟨root, false⟩

/-- The sandbox, to be left behind when it is closed. -/
def keep (s : Sandbox) : Sandbox := { s with kept := true }

/-- Removes the sandbox with all that is in it, unless it is to be kept; a failure to do so does not matter. -/
def close (s : Sandbox) : Script Handle Unit :=
  if s.kept then pure ()
  else do
    let _ ← Script.request (.removeTree s.root)
    return ()

def config (s : Sandbox) : Config := Config.withRoot s.root

def store (s : Sandbox) : Store := ⟨s.config⟩

/-- Writes a file of the sandbox, whatever its name and contents. -/
def seedRaw (s : Sandbox) (entry : Text) (contents : Bytes) : Operation Handle SandboxError Path := do
  let path := s.root.join (Path.ofText entry)
  let blame (failure : Failure) : SandboxError := ⟨some ("seeding ".toList ++ path.display), failure⟩
  let file ← Operation.ask (.openEmptied path) blame
  Operation.ask (.writeAll file contents) blame
  Operation.tell (.seededEntry entry contents.length)
  return path

def seed (s : Sandbox) (i : Identity) (v : Variable) : Operation Handle SandboxError Path :=
  s.seedRaw i.spell v.toBytes

/-- The contents of a file of the sandbox. -/
def rawEntry (s : Sandbox) (entry : Text) : Operation Handle SandboxError Bytes :=
  let path := s.root.join (Path.ofText entry)
  Operation.ask (.readFile path) fun failure => ⟨some ("reading ".toList ++ path.display), failure⟩

/-- The entry names in the sandbox, in the order of their bytes; what is not UTF-8 in them is shown as replacement
characters. -/
def entries (s : Sandbox) : Operation Handle SandboxError (List Text) := do
  let raw ← Operation.ask (.readDirectory s.root) fun failure => ⟨none, failure⟩
  return EntryName.sort (raw.map Utf8.decodeLossy)

end Sandbox
end FirmwareVars
