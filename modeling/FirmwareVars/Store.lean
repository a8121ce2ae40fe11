import FirmwareVars.EntryName
import FirmwareVars.Host.Script
import FirmwareVars.NameRecord
import FirmwareVars.Store.Error
/-!
# Stores

A store is a directory with one file per variable.  A `Store` holds nothing but its settings: every operation opens,
uses and releases files of its own, and none of them locks anything.

* `read` and `readVariable` read a variable, with its attribute word as bytes or taken apart;
* `write` creates or replaces a variable, or deletes it when there is no payload; `delete` deletes it;
* `list` names every variable in the order of the entry names, and `packedNames` packs these names into one buffer.

An identity without an entry name is refused before the host is asked for anything.
-/
namespace FirmwareVars

/-- Access to the variables of one directory. -/
structure Store where
  config : Config
  deriving DecidableEq

/-- What a write or a deletion did. -/
inductive Outcome
  /-- The file now holds this many bytes. -/
  | written (bytes : Nat)
  | deleted
  | absent
  deriving DecidableEq

namespace Outcome

def status : Outcome → Status
  | .absent => .notFound
  | _ => .success

/-- Whether something was done. -/
def isSuccess (o : Outcome) : Bool := o.status.isSuccess

end Outcome

/-! ## Order of entry names -/

namespace EntryName

/-- Comes no later than, byte by byte; a name comes before those that go on from it. -/
def precedes : Bytes → Bytes → Bool
  | [], _ => true
  | _ :: _, [] => false
  | a :: as, b :: bs => if a = b then precedes as bs else a < b

/-- Texts in the order of their bytes. -/
def sort (entries : List Text) : List Text :=
  entries.mergeSort fun a b => precedes (Utf8.encode a) (Utf8.encode b)

end EntryName

namespace Store

abbrev Work (Handle α : Type) := Operation Handle StoreError α

/-- A store over a directory, with the standard attribute word. -/
def atRoot (root : Path) : Store := ⟨Config.withRoot root⟩

/-- The store that the firmware shows. -/
def standard : Store := ⟨Config.standard⟩

def root (s : Store) : Path := s.config.root

def entryPath (s : Store) (i : Identity) : Except StoreError Path :=
  match EntryName.encode i with
  | .ok entry => .ok (s.root.join (Path.ofText entry))
  | .error e => .error (.ofNaming e)

variable {Handle : Type}

/-- The contents of the file at a path. -/
def readEntry (path : Path) : Work Handle Bytes := do
  let raw ← Operation.ask (.readFile path) (.ofFailure .read path)
  Operation.tell (.readVariable path raw.length)
  return raw

/-- The contents of a variable's file, attribute word included. -/
def read (s : Store) (i : Identity) : Work Handle Bytes := do
  let path ← s.entryPath i
  readEntry path

def readVariable (s : Store) (i : Identity) : Work Handle Variable := do
  let path ← s.entryPath i
  let raw ← readEntry path
  match Variable.ofBytes? raw with
  | some v => return v
  | none => throw (.truncated path raw.length)

/-- Removes a variable; one that is absent is no error. -/
def delete (s : Store) (i : Identity) : Work Handle Outcome := do
  let path ← s.entryPath i
  match ← ExceptT.lift (Script.request (.removeFile path)) with
  | .ok () =>
    Operation.tell (.deletedVariable path)
    return .deleted
  | .error .noEntry =>
    Operation.tell (.nothingToDelete path)
    return .absent
  | .error failure => throw (.host .delete path failure)

/-- Writes the file of a variable in one piece. -/
def replace (path : Path) (v : Variable) : Work Handle Outcome := do
  let packed := v.toBytes
  let file ← Operation.ask (.openEmptied path) (.host .opening path)
  Operation.ask (.writeAll file packed) (.host .write path)
  Operation.tell (.wroteVariable path v.attributes packed.length)
  return .written packed.length

/-- Creates or replaces a variable; without a payload it is deleted instead.  Without attributes it gets the word of
the settings. -/
def write (s : Store) (i : Identity) (payload : Option Bytes) (attributes : Option Attributes) :
    Work Handle Outcome :=
  match payload with
  | none => s.delete i
  | some payload => do
    let path ← s.entryPath i
    replace path ⟨attributes.getD s.config.attributes, payload⟩

/-- The entry names of a directory as texts; the first that is not UTF-8 ends the enumeration. -/
def readable : List Bytes → Work Handle (List Text)
  | [] => return []
  | raw :: rest =>
    match Utf8.decode? raw with
    | some entry => do return entry :: (← readable rest)
    | none => do
      let shown := Utf8.decodeLossy raw
      Operation.tell (.unreadableEntry shown)
      throw (.ofNaming (.entry shown .notText))

/-- The identities of entry names; the first that spells none ends the enumeration. -/
def identities : List Text → Work Handle (List Identity)
  | [] => return []
  | entry :: rest =>
    match EntryName.decode entry with
    | .ok i => do return i :: (← identities rest)
    | .error e => do
      Operation.tell (.malformedEntry entry e)
      throw (.ofNaming e)

/-- Every variable, in the order of the entry names.  One bad entry fails the whole call. -/
def list (s : Store) : Work Handle (List Identity) := do
  let raw ← Operation.ask (.readDirectory s.root) (.ofFailure .list s.root)
  let entries ← readable raw
  let found ← identities (EntryName.sort entries)
  Operation.tell (.listedStore s.root found.length)
  return found

/-- The names of every variable, packed in the order of the entry names. -/
def packedNames (s : Store) : Work Handle Bytes := do
  let found ← s.list
  match NameRecord.pack found with
  | .error e => throw (.ofNaming e)
  | .ok buffer =>
    Operation.tell (.packedNames found.length buffer.length)
    Operation.tell (.enumeratedNames s.root found.length buffer.length)
    return buffer

end Store
end FirmwareVars
