import FirmwareVars.Bytes
/-!
# GUIDs and identities

A vendor GUID is four numbers of 32, 16, 16 and 64 bits.  It has two written forms.  In bytes the first three numbers
are least significant byte first and the last one is most significant byte first.  In text all four are hexadecimal,
most significant digit first, in groups of 8, 4, 4, 4 and 12 digits, where the last number fills two groups.

`spell` writes the text form, `ofHyphenated?` reads it in either case of the digits, and `parse?` also takes the
thirty-two digits without hyphens and the hyphenated form in braces or after `urn:uuid:`.

A variable is known by its name within the namespace of a vendor GUID: the two are its `Identity`.
-/
namespace FirmwareVars

structure Guid where
  data1 : UInt32
  data2 : UInt16
  data3 : UInt16
  data4 : UInt64
  deriving DecidableEq, Inhabited

namespace Guid

/-- The sixteen bytes of a record field. -/
def toBytes (g : Guid) : Bytes :=
  Bytes.littleEndian 4 g.data1.toNat ++ Bytes.littleEndian 2 g.data2.toNat ++ Bytes.littleEndian 2 g.data3.toNat ++
    (Bytes.littleEndian 8 g.data4.toNat).reverse

/-- The GUID in the first sixteen bytes; a byte that is missing counts as zero. -/
def ofBytes (bs : Bytes) : Guid where
  data1 := UInt32.ofNat (Bytes.natLE (bs.take 4))
  data2 := UInt16.ofNat (Bytes.natLE ((bs.drop 4).take 2))
  data3 := UInt16.ofNat (Bytes.natLE ((bs.drop 6).take 2))
  data4 := UInt64.ofNat (Bytes.natLE ((bs.drop 8).take 8).reverse)

/-- How many digits each group of the text form has. -/
def groupWidths : List Nat := [8, 4, 4, 4, 12]

def groups (g : Guid) : List Text :=
  let last := Numeral.spellFixed 16 16 g.data4.toNat
  [Numeral.spellFixed 16 8 g.data1.toNat, Numeral.spellFixed 16 4 g.data2.toNat, Numeral.spellFixed 16 4 g.data3.toNat,
    last.take 4, last.drop 4]

/-- The text form: lower-case digits in hyphenated groups. -/
def spell (g : Guid) : Text := Text.joinWith ['-'] g.groups

/-- The value of a group of exactly `width` digits. -/
def groupValue? (width : Nat) (t : Text) : Option Nat :=
  if t.length = width then Numeral.read? 16 t else none

/-- The GUID of five groups of the right widths. -/
def ofGroups? : List Text → Option Guid
  | [a, b, c, d, e] =>
    match groupValue? 8 a, groupValue? 4 b, groupValue? 4 c, groupValue? 4 d, groupValue? 12 e with
    | some a, some b, some c, some d, some e =>
      some ⟨UInt32.ofNat a, UInt16.ofNat b, UInt16.ofNat c, UInt64.ofNat (d * 0x1000000000000 + e)⟩
    | _, _, _, _, _ => none
  | _ => none

/-- The GUID of a hyphenated text, with digits in either case. -/
def ofHyphenated? (t : Text) : Option Guid := ofGroups? (Text.splitOn '-' t)

/-- The GUID of thirty-two digits without hyphens. -/
def ofPlain? (t : Text) : Option Guid :=
  ofGroups? [t.take 8, (t.drop 8).take 4, (t.drop 12).take 4, (t.drop 16).take 4, t.drop 20]

/-- The mark of the URN form; its letters count in either case. -/
def urnMark : Text := "urn:uuid:".toList

def unbraced? : Text → Option Text
  | '\x7b' :: rest =>
    match rest.reverse with
    | '\x7d' :: inner => some inner.reverse
    | _ => none
  | _ => none

def parse? (t : Text) : Option Guid :=
  if t.length = 32 then ofPlain? t
  else if Text.sameLetters (t.take urnMark.length) urnMark then ofHyphenated? (t.drop urnMark.length)
  else match unbraced? t with
    | some inner => ofHyphenated? inner
    | none => ofHyphenated? t

/-! ## The written forms -/

/-- The GUID of the examples: in bytes its first three numbers are turned around and the last is not. -/
example : (⟨0x8be4df61, 0x93ca, 0x11d2, 0xaa0d00e098032b8c⟩ : Guid).toBytes =
    [0x61, 0xdf, 0xe4, 0x8b, 0xca, 0x93, 0xd2, 0x11, 0xaa, 0x0d, 0x00, 0xe0, 0x98, 0x03, 0x2b, 0x8c] := by
  decide +kernel

example : (⟨0x8be4df61, 0x93ca, 0x11d2, 0xaa0d00e098032b8c⟩ : Guid).spell =
    "8be4df61-93ca-11d2-aa0d-00e098032b8c".toList := by
  decide +kernel

example : parse? "\x7b8BE4DF61-93CA-11D2-AA0D-00E098032B8C\x7d".toList =
    some ⟨0x8be4df61, 0x93ca, 0x11d2, 0xaa0d00e098032b8c⟩ := by
  decide +kernel

example : parse? "urn:uuid:8be4df61-93ca-11d2-aa0d00e098032b8c".toList = none := by decide +kernel

end Guid

/-! ## Identities -/

/-- The key of a variable. -/
structure Identity where
  name : Text
  guid : Guid
  deriving DecidableEq

/-- The name, a hyphen and the GUID. -/
def Identity.spell (i : Identity) : Text := i.name ++ ['-'] ++ i.guid.spell

end FirmwareVars
