import FirmwareVars.Text.Quoted
/-!
# Paths

A path is what the host is given to find a file by: bytes, of which the separator is the only one with a meaning.
`join` goes on from one path to another, and `components` are the steps that the host takes along a path.
-/
namespace FirmwareVars

/-- A path, as the host takes it. -/
structure Path where
  bytes : Bytes
  deriving DecidableEq, Inhabited

namespace Path

def separator : UInt8 := 0x2F

def ofText (t : Text) : Path := ⟨Utf8.encode t⟩

/-- Starts at the root of all directories. -/
def isAbsolute (p : Path) : Bool := p.bytes.head? == some separator

/-- Ends in a separator, so that what it leads to has to be a directory. -/
def endsOpen (p : Path) : Bool := p.bytes.getLast? == some separator

/-- Goes on from `p` by `q`.  An absolute `q` stands for itself; otherwise one separator comes between the two, unless
`p` is empty or already ends in one. -/
def join (p q : Path) : Path :=
  if q.isAbsolute then q
  else if p.bytes = [] ∨ p.endsOpen then ⟨p.bytes ++ q.bytes⟩
  else ⟨p.bytes ++ [separator] ++ q.bytes⟩

/-- The path as text; what is not UTF-8 in it is shown as replacement characters. -/
def display (p : Path) : Text := Utf8.decodeLossy p.bytes

def quoted (p : Path) : Text := Text.quoteBytes p.bytes

/-- The runs of bytes between separators, of which empty ones are left out. -/
def segments : Bytes → List Bytes
  | [] => []
  | b :: bs =>
    if b = separator then segments bs
    else match bs with
      | [] => [[b]]
      | c :: _ =>
        if c = separator then [b] :: segments bs
        else match segments bs with
          | [] => [[b]]
          | s :: rest => (b :: s) :: rest

/-- The component that stays where it is. -/
def here : Bytes := [0x2E]

def up : Bytes := [0x2E, 0x2E]

/-- The steps along a path.  A separator at the end is a step that stays where it is. -/
def components (p : Path) : List Bytes :=
  if p.endsOpen then segments p.bytes ++ [here] else segments p.bytes

/-! ## Joined paths -/

example : (ofText "a".toList).join (ofText "b".toList) = ofText "a/b".toList := by decide +kernel
example : (ofText "a/".toList).join (ofText "b".toList) = ofText "a/b".toList := by decide +kernel
example : (ofText []).join (ofText "b".toList) = ofText "b".toList := by decide +kernel
example : (ofText "a".toList).join (ofText "/b".toList) = ofText "/b".toList := by decide +kernel
example : (ofText "a".toList).join (ofText []) = ofText "a/".toList := by decide +kernel

end Path
end FirmwareVars
