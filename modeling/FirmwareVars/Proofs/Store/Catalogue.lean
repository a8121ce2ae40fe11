import FirmwareVars.Host.Machine
import FirmwareVars.Proofs.EntryName.Order
import FirmwareVars.Proofs.Store.Access
import Mathlib.Data.Finmap
import Mathlib.Data.Finset.Sort
/-!
# Stores as finite maps

A `Call` is one use of a store, and `session` carries out a list of calls on a machine, each through a store of its
own.  `Catalogue.answer` and `Catalogue.session` say what the calls should give: a `Catalogue` is a finite map from the
identities that have entry names to variables, and no file, path or host comes into it, other than that an absent
variable is reported by its path.
-/
namespace FirmwareVars

open EntryName (Addressable)

/-! ## Keys -/

/-- An identity that has an entry name. -/
abbrev Key := {i : Identity // Addressable i}

namespace Key

def entry (k : Key) : Bytes := Utf8.encode k.1.spell

theorem entry_injective {k k' : Key} (h : k.entry = k'.entry) : k = k' :=
  Subtype.ext (EntryName.spell_injective (Utf8.encode_injective h))

/-- The key with the lesser entry name comes first. -/
def Before (k k' : Key) : Prop := EntryName.Before k.1.spell k'.1.spell

instance : DecidableRel Before := fun k k' => inferInstanceAs (Decidable (k.entry ≤ k'.entry))

instance : IsTrans Key Before := ⟨fun _ _ _ h h' => List.le_trans h h'⟩

instance : Std.Antisymm Before := ⟨fun _ _ h h' => entry_injective (List.le_antisymm h h')⟩

instance : Std.Total Before := ⟨fun _ _ => List.le_total _ _⟩

end Key

namespace Store

/-! ## Calls -/

inductive Call
  | write (i : Identity) (payload : Option Bytes) (attributes : Option Attributes)
  | delete (i : Identity)
  | read (i : Identity)
  | readVariable (i : Identity)
  | list

/-- The identity that a call is about. -/
def Call.identity? : Call → Option Identity
  | .write i _ _ | .delete i | .read i | .readVariable i => some i
  | .list => none

inductive Reply
  | outcome (result : Except StoreError Outcome)
  | contents (result : Except StoreError Bytes)
  | content (result : Except StoreError Variable)
  | names (result : Except StoreError (List Identity))
  deriving DecidableEq

/-- Carries out a call through a store. -/
def Call.carryOut (s : Store) (m : Machine) : Call → Reply × Machine
  | .write i payload attributes => (m.run (s.write i payload attributes).run).map .outcome id
  | .delete i => (m.run (s.delete i).run).map .outcome id
  | .read i => (m.run (s.read i).run).map .contents id
  | .readVariable i => (m.run (s.readVariable i).run).map .content id
  | .list => (m.run s.list.run).map .names id

/-- Carries out calls one after another: what they give, and the machine after them. -/
def session (m : Machine) : List (Store × Call) → List Reply × Machine
  | [] => ([], m)
  | (s, call) :: rest =>
    let (reply, m) := call.carryOut s m
    let (replies, m) := session m rest
    (reply :: replies, m)

end Store

/-! ## What calls should give -/

/-- What the variables of a directory amount to. -/
abbrev Catalogue := Finmap fun _ : Key => Variable

namespace Catalogue

open Store (Call Reply)

/-- The identities, in the order of their entry names. -/
def names (cat : Catalogue) : List Identity := (cat.keys.sort Key.Before).map Subtype.val

/-- The variable of an identity, or what is wrong with asking for it. -/
def find (cat : Catalogue) (s : Store) (i : Identity) : Except StoreError Variable :=
  if h : Addressable i then (cat.lookup ⟨i, h⟩).elim (.error (.notFound (s.variablePath i))) .ok
  else .error (Store.refused i)

/-- Without the variable of an identity. -/
def remove (cat : Catalogue) (i : Identity) : Except StoreError Outcome × Catalogue :=
  if h : Addressable i then
    if (⟨i, h⟩ : Key) ∈ cat then (.ok .deleted, cat.erase ⟨i, h⟩) else (.ok .absent, cat)
  else (.error (Store.refused i), cat)

/-- With a variable for an identity, in place of the one before. -/
def assign (cat : Catalogue) (i : Identity) (v : Variable) : Except StoreError Outcome × Catalogue :=
  if h : Addressable i then (.ok (.written (4 + v.payload.length)), cat.insert ⟨i, h⟩ v)
  else (.error (Store.refused i), cat)

/-- What a call gives, and the catalogue after it. -/
def answer (cat : Catalogue) (s : Store) : Call → Reply × Catalogue
  | .write i (some payload) attributes =>
    (cat.assign i ⟨attributes.getD s.config.attributes, payload⟩).map .outcome id
  | .write i none _ | .delete i => (cat.remove i).map .outcome id
  | .read i => (.contents ((cat.find s i).map Variable.toBytes), cat)
  | .readVariable i => (.content (cat.find s i), cat)
  | .list => (.names (.ok cat.names), cat)

/-- What calls give one after another, and the catalogue after them. -/
def session (cat : Catalogue) : List (Store × Call) → List Reply × Catalogue
  | [] => ([], cat)
  | (s, call) :: rest =>
    let (reply, cat) := cat.answer s call
    let (replies, cat) := cat.session rest
    (reply :: replies, cat)

end Catalogue
end FirmwareVars
