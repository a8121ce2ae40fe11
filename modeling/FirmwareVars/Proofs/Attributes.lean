import FirmwareVars.Attributes
import FirmwareVars.Proofs.Bytes
import FirmwareVars.Proofs.Numeral
/-!
# Attribute words and variables, written and read

A word that was written in hexadecimal digits is read as that word (`parse?_hex`), and blanks are read as no word at all
(`parse?_of_blank`).

File contents are read back as the variable that they were written for (`ofBytes?_toBytes`): the attribute word has a
fixed length, so the payload begins where it ends.  What is long enough for an attribute word is the form of exactly
one variable (`ofBytes?_eq_some_iff`, `wordLength_le_iff`).
-/
namespace FirmwareVars

/-! ## Attribute words -/

theorem Numeral.isBlank_of_isHexDigit {c : Char} (h : isHexDigit c = true) : Text.isBlank c = false := by
  have hc := isHexDigit_iff.1 h
  simp [Text.isBlank]
  omega

namespace Attributes

theorem notBlank_of_mem_hex (a : Attributes) : ∀ c ∈ a.hex, Text.isBlank c = false := by
  intro c hc
  rcases List.mem_append.1 hc with hmark | hdigit
  · have hcase : c = '0' ∨ c = 'x' := by simpa using hmark
    rcases hcase with rfl | rfl <;> decide
  · exact Numeral.isBlank_of_isHexDigit (Numeral.isHexDigit_of_mem_spellFixed hdigit)

theorem parse?_of_blank {t : Text} (h : ∀ c ∈ t, Text.isBlank c = true) : parse? t = none := by
  rw [parse?, Text.trim_eq_nil_iff.2 h]
  rfl

/-- **A word is read back from its digits.** -/
theorem parse?_hex (a : Attributes) : parse? a.hex = some a.word := by
  rw [parse?, Text.trim_of_notBlank a.notBlank_of_mem_hex]
  exact Numeral.readWord?_spellFixed a.word

end Attributes

/-! ## Variables -/

namespace Variable

theorem length_toBytes (v : Variable) : v.toBytes.length = wordLength + v.payload.length := by
  rw [toBytes, List.length_append, Bytes.length_littleEndian]

theorem toBytes_ne_nil (v : Variable) : v.toBytes ≠ [] := by
  refine List.ne_nil_of_length_pos ?_
  rw [length_toBytes]
  exact Nat.add_pos_left (by decide) _

/-- **A variable is read back from its form.** -/
theorem ofBytes?_toBytes (v : Variable) : ofBytes? v.toBytes = some v := by
  have hlen : ¬ v.toBytes.length < wordLength := by
    rw [length_toBytes]
    omega
  have hword : (Bytes.littleEndian wordLength v.attributes.word.toNat).length = wordLength :=
    Bytes.length_littleEndian wordLength _
  have hlt : v.attributes.word.toNat < 256 ^ wordLength := v.attributes.word.toNat_lt
  rw [ofBytes?, if_neg hlen, toBytes, List.take_left' hword, List.drop_left' hword, Bytes.natLE_littleEndian_of_lt hlt,
    UInt32.ofNat_toNat]

theorem exists_toBytes {raw : Bytes} (h : wordLength ≤ raw.length) : ∃ v : Variable, v.toBytes = raw := by
  have hword : (raw.take wordLength).length = wordLength := List.length_take_of_le h
  have hlt := Bytes.natLE_lt_of_length hword
  refine ⟨⟨⟨UInt32.ofNat (Bytes.natLE (raw.take wordLength))⟩, raw.drop wordLength⟩, ?_⟩
  rw [toBytes, UInt32.toNat_ofNat_of_lt' hlt, Bytes.littleEndian_natLE_of_length hword, List.take_append_drop]

/-- **Bytes are those of a variable exactly when they are taken apart into it.** -/
theorem ofBytes?_eq_some_iff {raw : Bytes} {v : Variable} : ofBytes? raw = some v ↔ raw = v.toBytes := by
  constructor
  · intro h
    by_cases hshort : raw.length < wordLength
    · rw [ofBytes?, if_pos hshort] at h
      cases h
    · obtain ⟨u, rfl⟩ := exists_toBytes (Nat.le_of_not_lt hshort)
      rw [ofBytes?_toBytes] at h
      rw [Option.some.inj h]
  · rintro rfl
    exact ofBytes?_toBytes v

theorem wordLength_le_iff {raw : Bytes} : wordLength ≤ raw.length ↔ ∃ v : Variable, raw = v.toBytes := by
  constructor
  · intro h
    obtain ⟨v, hv⟩ := exists_toBytes h
    exact ⟨v, hv.symm⟩
  · rintro ⟨v, rfl⟩
    rw [length_toBytes]
    exact Nat.le_add_right _ _

theorem ofBytes?_eq_none_iff {raw : Bytes} : ofBytes? raw = none ↔ raw.length < wordLength := by
  rw [← Nat.not_le, wordLength_le_iff, Option.eq_none_iff_forall_ne_some, not_exists]
  exact forall_congr' fun v => not_congr ofBytes?_eq_some_iff

end Variable
end FirmwareVars
