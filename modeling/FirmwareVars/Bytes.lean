import FirmwareVars.Text.Numeral
/-!
# Bytes

File contents and packed buffers are lists of bytes.  `littleEndian` writes a number in a given number of bytes, least
significant first, and `natLE` reads it back; `hexDump` writes two lower-case digits a byte, and `ofHexDump?` reads
such a dump, in either case of the digits.
-/
namespace FirmwareVars

/-- A run of bytes, first to last. -/
abbrev Bytes := List UInt8

namespace Bytes

/-- The number in `width` bytes, least significant first; what does not fit is dropped. -/
def littleEndian : Nat → Nat → Bytes
  | 0, _ => []
  | width + 1, n => UInt8.ofNat (n % 256) :: littleEndian width (n / 256)

/-- The number that the bytes spell, least significant first. -/
def natLE : Bytes → Nat
  | [] => 0
  | b :: bs => b.toNat + 256 * natLE bs

/-- Two lower-case hexadecimal digits for every byte. -/
def hexDump (bs : Bytes) : Text := bs.flatMap fun b => Numeral.spellFixed 16 2 b.toNat

/-- The bytes of a dump: an even number of hexadecimal digits, in either case. -/
def ofHexDump? : Text → Option Bytes
  | [] => some []
  | [_] => none
  | high :: low :: rest =>
    match Numeral.digit? 16 high, Numeral.digit? 16 low, ofHexDump? rest with
    | some h, some l, some bs => some (UInt8.ofNat (16 * h + l) :: bs)
    | _, _, _ => none

end Bytes
end FirmwareVars
