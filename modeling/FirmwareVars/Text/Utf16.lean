import FirmwareVars.Bytes
/-!
# UTF-16

The code units of a text and back.  A character outside the basic plane is two units, a high surrogate and a low one;
`decode?` refuses a surrogate that has no partner.  `toBytes` and `unitsOf?` carry units over little-endian pairs of
bytes.
-/
namespace FirmwareVars
namespace Utf16

/-- The code units of a character: one, or a surrogate pair. -/
def encodeChar (c : Char) : List UInt16 :=
  let n := c.toNat
  if n < 0x10000 then [UInt16.ofNat n]
  else [UInt16.ofNat (0xD800 + (n - 0x10000) / 0x400), UInt16.ofNat (0xDC00 + (n - 0x10000) % 0x400)]

def encode (t : Text) : List UInt16 := t.flatMap encodeChar

def isHigh (u : UInt16) : Bool := 0xD800 ≤ u.toNat && u.toNat < 0xDC00

def isLow (u : UInt16) : Bool := 0xDC00 ≤ u.toNat && u.toNat < 0xE000

def pair (high low : UInt16) : Char :=
  Char.ofNat (0x10000 + (high.toNat - 0xD800) * 0x400 + (low.toNat - 0xDC00))

/-- The text that the units spell, when every surrogate is half of a pair. -/
def decode? : List UInt16 → Option Text
  | [] => some []
  | [u] => if isHigh u || isLow u then none else some [Char.ofNat u.toNat]
  | u :: v :: rest =>
    if isHigh u then
      if isLow v then (decode? rest).map (pair u v :: ·) else none
    else if isLow u then none
    else (decode? (v :: rest)).map (Char.ofNat u.toNat :: ·)

/-- The units as bytes, the low byte of each first. -/
def toBytes (units : List UInt16) : Bytes := units.flatMap fun u => Bytes.littleEndian 2 u.toNat

/-- The units of an even number of bytes. -/
def unitsOf? : Bytes → Option (List UInt16)
  | [] => some []
  | [_] => none
  | low :: high :: rest => (unitsOf? rest).map (UInt16.ofNat (low.toNat + 256 * high.toNat) :: ·)

end Utf16
end FirmwareVars
