import FirmwareVars.Guid
import FirmwareVars.NamingError
import FirmwareVars.Text.Utf16
/-!
# Name records

The names of a whole store in one buffer: records without gaps, each of which holds

* four bytes: how far the next record is, least significant byte first; zero in the last record;
* sixteen bytes: the GUID;
* the name in UTF-16, two bytes a unit, low byte first, without a terminator, up to the end of the record.

`pack` writes identities in the order given.  A `Walk` steps through any buffer, one record or one error at a time, and
stops for good after the last record or the first error; `decode` is a walk that keeps everything or fails.
-/
namespace FirmwareVars
namespace NameRecord

/-- The length of the record of an identity: the header and two bytes for every UTF-16 unit of the name. -/
def length (i : Identity) : Nat := recordHeader + 2 * (Utf16.encode i.name).length

/-- The record of an identity, with a given distance to the next one. -/
def render (distance : Nat) (i : Identity) : Bytes :=
  Bytes.littleEndian 4 distance ++ i.guid.toBytes ++ Utf16.toBytes (Utf16.encode i.name)

/-- The buffer of a list of identities.  Every record but the last carries its own length as a 32-bit number, so it
must be one; the last carries zero. -/
def pack : List Identity → Except NamingError Bytes
  | [] => .ok []
  | [i] => .ok (render 0 i)
  | i :: rest =>
    if length i < UInt32.size then
      match pack rest with
      | .ok tail => .ok (render (length i) i ++ tail)
      | .error e => .error e
    else .error (.identity (.longRecord i.name (length i)))

end NameRecord

/-- A record as it was found in a buffer. -/
structure NameRecord where
  offset : Nat
  /-- How far the next record is; zero in the last one. -/
  next : UInt32
  guid : Guid
  name : Text
  deriving DecidableEq

namespace NameRecord

def identity (r : NameRecord) : Identity := ⟨r.name, r.guid⟩

/-- The text of the bytes of a name. -/
def readName (bs : Bytes) : Except RecordFault Text :=
  match Utf16.unitsOf? bs with
  | none => .error .splitUnit
  | some units =>
    match Utf16.decode? units with
    | none => .error .brokenPair
    | some name => .ok name

/-- How long the first record of a non-empty buffer is, from its offset field. -/
def span (distance : Nat) (left : Nat) : Except RecordFault Nat :=
  if distance = 0 then .ok left
  else if distance < recordHeader then .error (.shortOffset distance)
  else if distance < left then .ok distance
  else if distance = left then .error .finalOffset
  else .error (.overrun distance)

/-- The first record of a buffer, and how long it is. -/
def readFirst (offset : Nat) (buffer : Bytes) : Except RecordFault (NameRecord × Nat) :=
  if buffer.length < recordHeader then .error (.shortHeader buffer.length)
  else
    let distance := Bytes.natLE (buffer.take 4)
    match span distance buffer.length with
    | .error fault => .error fault
    | .ok size =>
      match readName ((buffer.take size).drop recordHeader) with
      | .error fault => .error fault
      | .ok name => .ok (⟨offset, UInt32.ofNat distance, Guid.ofBytes (buffer.drop 4), name⟩, size)

/-- A position in a buffer: how far the walk has come, what is left, and whether it is over. -/
structure Walk where
  offset : Nat
  left : Bytes
  ended : Bool
  deriving DecidableEq

/-- What a step of a walk shows. -/
abbrev Item := Except NamingError NameRecord

/-- A walk at the start of a buffer; over an empty one there is nothing to walk. -/
def Walk.ofBuffer (buffer : Bytes) : Walk := ⟨0, buffer, buffer.isEmpty⟩

/-- One step: the next record or the error that ends the walk, and nothing once the walk is over. -/
def Walk.next (w : Walk) : Option Item × Walk :=
  if w.ended then (none, w)
  else match readFirst w.offset w.left with
    | .error fault => (some (.error (.record w.offset fault)), { w with ended := true })
    | .ok (r, size) => (some (.ok r), ⟨w.offset + size, w.left.drop size, r.next == 0⟩)

/-- The steps of a walk that may take `fuel` of them, and where it then stands. -/
def Walk.run : Nat → Walk → List Item × Walk
  | 0, w => ([], w)
  | fuel + 1, w =>
    match w.next with
    | (none, w) => ([], w)
    | (some item, w) =>
      let (items, last) := Walk.run fuel w
      (item :: items, last)

/-- A whole walk over a buffer.  Every step but the last leaves a record of at least a header behind, so there are no
more steps than the buffer has bytes. -/
def walk (buffer : Bytes) : List Item × Walk := Walk.run (buffer.length + 1) (Walk.ofBuffer buffer)

/-- The records of a walk, or the error that ended it. -/
def collect : List Item → Except NamingError (List NameRecord)
  | [] => .ok []
  | .ok r :: items =>
    match collect items with
    | .ok rs => .ok (r :: rs)
    | .error e => .error e
  | .error e :: _ => .error e

def decode (buffer : Bytes) : Except NamingError (List NameRecord) := collect (walk buffer).1

end NameRecord
end FirmwareVars
