import FirmwareVars.Bytes
/-!
# Attribute words and variables

Every variable carries a 32-bit attribute word.  Seven of its bits have names; all the others are carried through
unchanged, so the algebra below is that of all 32 bits.  `describe` shows a word as the names of its bits and the rest
as one number, and `parse?` reads a word as a person writes it.

A `Variable` is an attribute word and a payload.  As file contents the word takes four bytes, least significant first,
and the payload follows; every byte string of four bytes or more is the form of exactly one variable.
-/
namespace FirmwareVars

structure Attributes where
  word : UInt32
  deriving DecidableEq, Inhabited

namespace Attributes

structure Flag where
  name : Text
  bit : UInt32
  deriving DecidableEq

/-- The named bits, in the order in which they are shown. -/
def flags : List Flag :=
  [⟨"NON_VOLATILE".toList, 0x01⟩,
   ⟨"BOOTSERVICE_ACCESS".toList, 0x02⟩,
   ⟨"RUNTIME_ACCESS".toList, 0x04⟩,
   ⟨"HARDWARE_ERROR_RECORD".toList, 0x08⟩,
   ⟨"AUTHENTICATED_WRITE_ACCESS".toList, 0x10⟩,
   ⟨"TIME_BASED_AUTHENTICATED_WRITE_ACCESS".toList, 0x20⟩,
   ⟨"APPEND_WRITE".toList, 0x40⟩]

/-- The bits a word may have: all of them, so that a bit without a name is never dropped. -/
def known : UInt32 := 0xFFFFFFFF

/-- Non-volatile, with boot-service and run-time access: the word of a write that gives none. -/
def standard : Attributes := ⟨0x7⟩

/-! ## The algebra of words -/

/-- The word, when it has known bits only. -/
def ofWord? (w : UInt32) : Option Attributes := if w &&& ~~~known = 0 then some ⟨w⟩ else none

def truncate (w : UInt32) : Attributes := ⟨w &&& known⟩

def isEmpty (a : Attributes) : Bool := a.word == 0
def isAll (a : Attributes) : Bool := a.word &&& known == known
def contains (a b : Attributes) : Bool := a.word &&& b.word == b.word
def intersects (a b : Attributes) : Bool := a.word &&& b.word != 0
def union (a b : Attributes) : Attributes := ⟨a.word ||| b.word⟩
def inter (a b : Attributes) : Attributes := ⟨a.word &&& b.word⟩
def diff (a b : Attributes) : Attributes := ⟨a.word &&& ~~~b.word⟩
def symmDiff (a b : Attributes) : Attributes := ⟨a.word ^^^ b.word⟩
def complement (a : Attributes) : Attributes := truncate (~~~a.word)

/-! ## The parts of a word -/

/-- Takes the flags that the word has out of what is left of it, in order: the flags taken, and the bits left. -/
def takeFlags (a : Attributes) : List Flag → UInt32 → List Flag × UInt32
  | [], left => ([], left)
  | f :: fs, left =>
    if a.contains ⟨f.bit⟩ && left &&& f.bit != 0 then
      let (taken, rest) := a.takeFlags fs (left &&& ~~~f.bit)
      (f :: taken, rest)
    else a.takeFlags fs left

/-- The named bits of a word, in order. -/
def named (a : Attributes) : List Flag := (a.takeFlags flags a.word).1

/-- The bits of a word that have no name. -/
def residue (a : Attributes) : UInt32 := (a.takeFlags flags a.word).2

/-- The named bits, each on its own, and then the bits without a name as one item, when there are any. -/
def items (a : Attributes) : List UInt32 :=
  a.named.map Flag.bit ++ if a.residue = 0 then [] else [a.residue]

/-! ## Text -/

/-- A word as `0x` and eight lower-case digits. -/
def hex (a : Attributes) : Text := "0x".toList ++ Numeral.spellFixed 16 8 a.word.toNat

/-- The parts of a word as text: the names, then the number of the bits without one. -/
def parts (a : Attributes) : List Text :=
  a.named.map Flag.name ++
    if a.residue = 0 ∧ a.named ≠ [] then [] else ["0x".toList ++ Numeral.spell 16 a.residue.toNat]

def describe (a : Attributes) : Text :=
  "Attributes(".toList ++ Text.joinWith " | ".toList a.parts ++ ")".toList

/-- A word as written by hand: blanks around it do not count; after `0x` or `0X` the digits are hexadecimal, otherwise
they are decimal; a plus sign may stand before the digits. -/
def parse? (t : Text) : Option UInt32 :=
  match Text.trim t with
  | '0' :: 'x' :: digits => Numeral.readWord? 16 digits
  | '0' :: 'X' :: digits => Numeral.readWord? 16 digits
  | digits => Numeral.readWord? 10 digits

/-! ## The written forms -/

example : (⟨0x80000007⟩ : Attributes).describe =
    "Attributes(NON_VOLATILE | BOOTSERVICE_ACCESS | RUNTIME_ACCESS | 0x80000000)".toList := by
  decide +kernel

/-- A word without any bit is a number and not an empty list of names. -/
example : (⟨0⟩ : Attributes).describe = "Attributes(0x0)".toList := by decide +kernel

example : (⟨0x80000007⟩ : Attributes).hex = "0x80000007".toList := by decide +kernel

example : parse? " 0X2f ".toList = some 0x2f ∧ parse? "+7".toList = some 7 ∧ parse? "0x".toList = none := by
  decide +kernel

end Attributes

/-! ## Variables -/

structure Variable where
  attributes : Attributes
  payload : Bytes
  deriving DecidableEq

namespace Variable

/-- How many bytes the attribute word takes. -/
def wordLength : Nat := 4

def toBytes (v : Variable) : Bytes := Bytes.littleEndian wordLength v.attributes.word.toNat ++ v.payload

/-- The variable of file contents, when the attribute word is there in full. -/
def ofBytes? (raw : Bytes) : Option Variable :=
  if raw.length < wordLength then none
  else some ⟨⟨UInt32.ofNat (Bytes.natLE (raw.take wordLength))⟩, raw.drop wordLength⟩

end Variable
end FirmwareVars
