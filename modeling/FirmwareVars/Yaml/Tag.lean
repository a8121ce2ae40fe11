import FirmwareVars.Text.Numeral
import FirmwareVars.Yaml.Source
/-!
# YAML tags and directives

A tag names the kind of a node by a handle and a suffix, which a tag directive joins to one name; the name is kept as
bytes, because it may be spelled with numbered bytes.  Either part of a name ends at a zero byte, when one is spelled.

The readers here take what stands at the front of a text and return it with the rest.  All of it is ASCII, so the
lengths say how far a reader has come.
-/
namespace FirmwareVars
namespace Yaml

/-- The tag of a node as written. -/
structure TagName where
  /-- Which directive the suffix belongs to; empty for a tag that is given in full. -/
  handle : Text
  suffix : Bytes
  deriving DecidableEq

/-- What a tag directive says: what a handle stands for. -/
structure TagRule where
  handle : Text
  lead : Bytes
  deriving DecidableEq

/-- A line that tells how to read the document after it. -/
inductive Directive
  | version (major minor : Nat)
  | tag (rule : TagRule)
  deriving DecidableEq

/-- The word characters at the front, and what follows them. -/
def takeWord (t : Text) : Text × Text := (t.takeWhile isWord, t.dropWhile isWord)

/-- A character that may stand in a tag; some may only where the tag is given in full. -/
def isTagChar (full : Bool) (c : Char) : Bool :=
  isWord c || ";/?:@&=+$.%!~*\x27()".toList.contains c || (full && (c == ',' || c == '[' || c == ']'))

/-- How many bytes follow a first byte, if it may be one. -/
def bytesAfter? (n : Nat) : Option Nat :=
  if n < 0x80 then some 0
  else if n < 0xC0 then none
  else if n < 0xE0 then some 1
  else if n < 0xF0 then some 2
  else if n < 0xF8 then some 3
  else none

/-- What a byte spelled by two digits leaves to be spelled, when `owed` bytes are owed before it. -/
def owedAfter? (owed n : Nat) : Option Nat :=
  if owed = 0 then bytesAfter? n
  else if 0x80 ≤ n ∧ n < 0xC0 then some (owed - 1)
  else none

/-- The tag characters at the front as bytes.  A percent sign and two digits are one byte, and the bytes of one
character have to be spelled one after the other. -/
def takeTagChars (full : Bool) (owed : Nat) : Text → Option (Bytes × Text)
  | '%' :: a :: b :: rest =>
    match Numeral.digit? 16 a, Numeral.digit? 16 b with
    | some h, some l =>
      match owedAfter? owed (16 * h + l) with
      | some owed => (takeTagChars full owed rest).map fun (bs, rest) => (UInt8.ofNat (16 * h + l) :: bs, rest)
      | none => none
    | _, _ => none
  | c :: rest =>
    if owed ≠ 0 ∨ c = '%' then none
    else if isTagChar full c then
      (takeTagChars full 0 rest).map fun (bs, rest) => (Utf8.encodeChar c ++ bs, rest)
    else some ([], c :: rest)
  | [] => if owed = 0 then some ([], []) else none

/-- The part of a name that bytes spell: what comes after a zero byte does not count. -/
def namePart (bs : Bytes) : Bytes := bs.takeWhile (· != 0)

/-- One tag character or more. -/
def takeTagText (full : Bool) (t : Text) : Option (Bytes × Text) :=
  match takeTagChars full 0 t with
  | some ([], _) => none
  | found => found

/-- An exclamation mark, a word, and perhaps another exclamation mark. -/
def takeHandle : Text → Option (Text × Text)
  | '!' :: rest =>
    let (word, rest) := takeWord rest
    match rest with
    | '!' :: rest => some (['!'] ++ word ++ ['!'], rest)
    | rest => some ('!' :: word, rest)
  | _ => none

/-- Is a handle and not the beginning of a suffix: it has two exclamation marks. -/
def isClosedHandle (handle : Text) : Bool := handle.length ≥ 2 && handle.getLast? == some '!'

def takeTag (t : Text) : Option (TagName × Text) :=
  match t with
  | '!' :: '<' :: rest =>
    match takeTagText true rest with
    | some (suffix, '>' :: rest) => some (⟨[], namePart suffix⟩, rest)
    | _ => none
  | t =>
    match takeHandle t with
    | none => none
    | some (handle, rest) =>
      if isClosedHandle handle then
        (takeTagText false rest).map fun (suffix, rest) => (⟨handle, namePart suffix⟩, rest)
      else
        (takeTagChars false 0 rest).map fun (more, rest) =>
          let suffix := namePart (Utf8.encode (handle.drop 1) ++ more)
          (if suffix = [] then ⟨[], Utf8.encode ['!']⟩ else ⟨['!'], suffix⟩, rest)

/-- The most digits a version number may have. -/
def versionDigits : Nat := 9

def takeVersionNumber (t : Text) : Option (Nat × Text) :=
  let digits := t.takeWhile Numeral.isDigit
  if digits.length ≤ versionDigits then
    (Numeral.read? 10 digits).map fun n => (n, t.dropWhile Numeral.isDigit)
  else none

def takeVersion (t : Text) : Option (Directive × Text) :=
  match takeVersionNumber (t.dropWhile isBlank) with
  | some (major, '.' :: rest) => (takeVersionNumber rest).map fun (minor, rest) => (.version major minor, rest)
  | _ => none

/-- A handle and what it stands for. -/
def takeTagRule (t : Text) : Option (Directive × Text) :=
  match takeHandle (t.dropWhile isBlank) with
  | none => none
  | some (handle, rest) =>
    if (isClosedHandle handle || handle == ['!']) && (rest.head?.map isBlank).getD false then
      match takeTagText true (rest.dropWhile isBlank) with
      | some (lead, rest) => if atSpace rest then some (.tag ⟨handle, namePart lead⟩, rest) else none
      | none => none
    else none

def takeDirective (t : Text) : Option (Directive × Text) :=
  let (name, rest) := takeWord t
  if !atSpace rest then none
  else if name = "YAML".toList then takeVersion rest
  else if name = "TAG".toList then takeTagRule rest
  else none

end Yaml
end FirmwareVars
