import FirmwareVars.Guid
import FirmwareVars.Json.Reader
import FirmwareVars.Text.Quoted
/-!
# Identities as JSON

An identity is an object with a `name` and a `guid`, both strings.  `toJson` writes it on one line, `toJsonLines` with
a member a line, and `listToJson` a list of identities in that layout.

Read back, the members may come in any order; a member of another name is passed over, a known one must not come
twice, and the GUID may have any spelling that `Guid.parse?` takes.  An array of a name and a GUID is taken too.
-/
namespace FirmwareVars
namespace Identity

open FirmwareVars.Json (Reader Fault)

/-! ## Writing -/

/-- A member of an object: its name, a colon, an optional gap, and a string. -/
def member (gap : Text) (key value : Text) : Text := Json.quote key ++ [':'] ++ gap ++ Json.quote value

/-- The identity on one line, without blanks. -/
def toJson (i : Identity) : Text :=
  ['\x7b'] ++ member [] "name".toList i.name ++ [','] ++ member [] "guid".toList i.guid.spell ++ ['\x7d']

/-- The identity with one member a line, `indent` blanks before its braces. -/
def toJsonLines (indent : Nat) (i : Identity) : Text :=
  let margin := List.replicate indent ' '
  let inner := ['\n'] ++ margin ++ "  ".toList
  ['\x7b'] ++ inner ++ member [' '] "name".toList i.name ++ [','] ++
    inner ++ member [' '] "guid".toList i.guid.spell ++ ['\n'] ++ margin ++ ['\x7d']

/-- A list of identities, laid out in lines; an empty one is a pair of brackets. -/
def listToJson (is : List Identity) : Text :=
  if is = [] then "[]".toList
  else
    ['['] ++ Text.joinWith [','] (is.map fun i => "\n  ".toList ++ toJsonLines 2 i) ++ "\n]".toList

/-! ## Reading -/

structure Found where
  name : Option Text
  guid : Option Guid

def readGuid : Reader Guid := fun t =>
  match Json.readText t with
  | .error fault => .error fault
  | .ok (spelling, rest) =>
    match Guid.parse? spelling with
    | some g => .ok (g, rest)
    | none => .error .mismatch

/-- Passes over the colon after a member's name. -/
def skipColon (t : Text) : Except Fault Text :=
  match Json.skipBlank t with
  | ':' :: rest => .ok rest
  | [] => .error .ended
  | _ => .error .malformed

/-- A member after its opening quote, taken into what was found. -/
def readMember (found : Found) : Reader Found := fun t => do
  let (key, rest) ← Json.readString t
  if key = "name".toList then
    if found.name.isSome then .error .mismatch
    else
      let (name, rest) ← Json.readText (← skipColon rest)
      .ok ({ found with name := some name }, rest)
  else if key = "guid".toList then
    if found.guid.isSome then .error .mismatch
    else
      let (guid, rest) ← readGuid (← skipColon rest)
      .ok ({ found with guid := some guid }, rest)
  else
    let rest ← Json.skipValue (← skipColon rest)
    .ok (found, rest)

/-- The identity of the members found, when both are there. -/
def Found.finish (found : Found) (rest : Text) : Except Fault (Identity × Text) :=
  match found.name, found.guid with
  | some name, some guid => .ok (⟨name, guid⟩, rest)
  | _, _ => .error .mismatch

/-- The members of an object up to its closing brace; `first` while there was none yet. -/
def readMembers : Nat → Bool → Found → Reader Identity
  | 0, _, _, _ => .error .ended
  | fuel + 1, first, found, t =>
    match Json.skipBlank t with
    | [] => .error .ended
    | c :: rest =>
      if c = '\x7d' then found.finish rest
      else if first then
        if c = '\x22' then do
          let (found, rest) ← readMember found rest
          readMembers fuel false found rest
        else .error .malformed
      else if c = ',' then
        match Json.skipBlank rest with
        | '\x22' :: rest => do
          let (found, rest) ← readMember found rest
          readMembers fuel false found rest
        | [] => .error .ended
        | _ => .error .malformed
      else .error .malformed

/-- Whether an array goes on after `first` items or more: where its next item starts, if there is one. -/
def nextItem (first : Bool) (t : Text) : Except Fault (Option Text) :=
  match Json.skipBlank t with
  | [] => .error .ended
  | c :: rest =>
    if c = ']' then .ok none
    else if first then .ok (some (c :: rest))
    else if c = ',' then
      match Json.skipBlank rest with
      | [] => .error .ended
      | ']' :: _ => .error .malformed
      | next => .ok (some next)
    else .error .malformed

/-- The end of an array whose items have all been read. -/
def closeArray (t : Text) : Except Fault Text :=
  match Json.skipBlank t with
  | ']' :: rest => .ok rest
  | [] => .error .ended
  | _ => .error .malformed

/-- A name and a GUID after an opening bracket, and the closing one. -/
def readPair : Reader Identity := fun t => do
  match ← nextItem true t with
  | none => .error .mismatch
  | some t =>
    let (name, rest) ← Json.readText t
    match ← nextItem false rest with
    | none => .error .mismatch
    | some t =>
      let (guid, rest) ← readGuid t
      .ok (⟨name, guid⟩, ← closeArray rest)

def readJson : Reader Identity := fun t =>
  match Json.skipBlank t with
  | '\x7b' :: rest => readMembers (rest.length + 1) true ⟨none, none⟩ rest
  | '[' :: rest => readPair rest
  | other => .error (Json.mismatchAt other)

def ofJson (t : Text) : Except Fault Identity := Json.readDocument readJson t

def listOfJson (t : Text) : Except Fault (List Identity) := Json.readDocument (Json.readArray readJson) t

end Identity
end FirmwareVars
