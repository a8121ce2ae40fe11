import FirmwareVars.Bytes
import FirmwareVars.Proofs.Numeral
/-!
# Numbers in bytes, both ways

`littleEndian` and `natLE` are inverse to each other: a number that fits its width comes back
(`natLE_littleEndian_of_lt`), and so do the bytes of any number that was read (`littleEndian_natLE`).  Bytes come back
from their dump (`ofHexDump?_hexDump`).
-/
namespace FirmwareVars
namespace Bytes

@[simp] theorem length_littleEndian : ∀ (width n : Nat), (littleEndian width n).length = width
  | 0, _ => rfl
  | width + 1, n => by rw [littleEndian, List.length_cons, length_littleEndian width]

theorem natLE_littleEndian : ∀ (width n : Nat), natLE (littleEndian width n) = n % 256 ^ width
  | 0, n => by rw [littleEndian, natLE, Nat.pow_zero, Nat.mod_one]
  | width + 1, n => by
    have hb : (UInt8.ofNat (n % 256)).toNat = n % 256 := by
      rw [UInt8.toNat_ofNat']
      exact Nat.mod_eq_of_lt (Nat.mod_lt n (by decide))
    rw [littleEndian, natLE, hb, natLE_littleEndian width, Nat.pow_succ,
      Nat.mul_comm (256 ^ width), Nat.mod_mul]

/-- **A number that fits its width is read back.** -/
theorem natLE_littleEndian_of_lt {width n : Nat} (h : n < 256 ^ width) : natLE (littleEndian width n) = n := by
  rw [natLE_littleEndian, Nat.mod_eq_of_lt h]

theorem natLE_lt : ∀ bs : Bytes, natLE bs < 256 ^ bs.length
  | [] => by decide
  | b :: bs => by
    have hb := b.toNat_lt
    have ih := natLE_lt bs
    rw [natLE, List.length_cons, Nat.pow_succ]
    omega

/-- **The bytes of a number that was read are the bytes it was read from.** -/
theorem littleEndian_natLE : ∀ bs : Bytes, littleEndian bs.length (natLE bs) = bs
  | [] => rfl
  | b :: bs => by
    have hb := b.toNat_lt
    have hlow : (b.toNat + 256 * natLE bs) % 256 = b.toNat := by omega
    have hrest : (b.toNat + 256 * natLE bs) / 256 = natLE bs := by omega
    rw [List.length_cons, natLE, littleEndian, hlow, hrest, UInt8.ofNat_toNat, littleEndian_natLE bs]

theorem littleEndian_natLE_of_length {bs : Bytes} {width : Nat} (h : bs.length = width) :
    littleEndian width (natLE bs) = bs := by
  subst h
  exact littleEndian_natLE bs

theorem natLE_lt_of_length {bs : Bytes} {width : Nat} (h : bs.length = width) : natLE bs < 256 ^ width := by
  subst h
  exact natLE_lt bs

theorem ofHexDump?_hexDump : ∀ bs : Bytes, ofHexDump? (hexDump bs) = some bs
  | [] => rfl
  | b :: bs => by
    have hb := b.toNat_lt
    have hhigh : b.toNat / 16 < 16 := by omega
    have hlow : b.toNat % 16 < 16 := by omega
    have hdump : hexDump (b :: bs) =
        Numeral.digitChar (b.toNat / 16) :: Numeral.digitChar (b.toNat % 16) :: hexDump bs := by
      simp [hexDump, Numeral.spellFixed, Nat.mod_eq_of_lt hhigh]
    rw [hdump, ofHexDump?, Numeral.digit?_digitChar hhigh hhigh, Numeral.digit?_digitChar hlow hlow,
      ofHexDump?_hexDump bs]
    simp only [Nat.div_add_mod, UInt8.ofNat_toNat]

end Bytes
end FirmwareVars
