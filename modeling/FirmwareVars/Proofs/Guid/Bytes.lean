import FirmwareVars.Guid
import FirmwareVars.Proofs.Bytes
/-!
# GUIDs in bytes, both ways

The sixteen bytes of a GUID and the GUID determine each other, whatever follows the bytes (`ofBytes_append`,
`toBytes_ofBytes`).
-/
namespace FirmwareVars
namespace Guid

@[simp] theorem length_toBytes (g : Guid) : g.toBytes.length = 16 := by
  simp only [toBytes, List.length_append, List.length_reverse, Bytes.length_littleEndian]

theorem ofNat_natLE_word (w : UInt32) : UInt32.ofNat (Bytes.natLE (Bytes.littleEndian 4 w.toNat)) = w := by
  rw [Bytes.natLE_littleEndian_of_lt w.toNat_lt, UInt32.ofNat_toNat]

theorem ofNat_natLE_half (w : UInt16) : UInt16.ofNat (Bytes.natLE (Bytes.littleEndian 2 w.toNat)) = w := by
  rw [Bytes.natLE_littleEndian_of_lt w.toNat_lt, UInt16.ofNat_toNat]

theorem ofNat_natLE_long (w : UInt64) : UInt64.ofNat (Bytes.natLE (Bytes.littleEndian 8 w.toNat)) = w := by
  rw [Bytes.natLE_littleEndian_of_lt w.toNat_lt, UInt64.ofNat_toNat]

/-- **A GUID is read back from its bytes**, whatever follows them. -/
theorem ofBytes_append (g : Guid) (rest : Bytes) : ofBytes (g.toBytes ++ rest) = g := by
  have h4 (n : Nat) : (Bytes.littleEndian 4 n).length = 4 := Bytes.length_littleEndian 4 n
  have h2 (n : Nat) : (Bytes.littleEndian 2 n).length = 2 := Bytes.length_littleEndian 2 n
  have h8 (n : Nat) : (Bytes.littleEndian 8 n).reverse.length = 8 := by
    rw [List.length_reverse, Bytes.length_littleEndian]
  have e1 : (g.toBytes ++ rest).take 4 = Bytes.littleEndian 4 g.data1.toNat := by
    simp only [toBytes, List.append_assoc]
    exact List.take_left' (h4 _)
  have d1 : (g.toBytes ++ rest).drop 4 = Bytes.littleEndian 2 g.data2.toNat ++
      (Bytes.littleEndian 2 g.data3.toNat ++ ((Bytes.littleEndian 8 g.data4.toNat).reverse ++ rest)) := by
    simp only [toBytes, List.append_assoc]
    exact List.drop_left' (h4 _)
  have d2 : (g.toBytes ++ rest).drop 6 =
      Bytes.littleEndian 2 g.data3.toNat ++ ((Bytes.littleEndian 8 g.data4.toNat).reverse ++ rest) := by
    rw [show 6 = 4 + 2 from rfl, ← List.drop_drop, d1]
    exact List.drop_left' (h2 _)
  have d3 : (g.toBytes ++ rest).drop 8 = (Bytes.littleEndian 8 g.data4.toNat).reverse ++ rest := by
    rw [show 8 = 6 + 2 from rfl, ← List.drop_drop, d2]
    exact List.drop_left' (h2 _)
  rw [ofBytes, e1, d1, d2, d3, List.take_left' (h2 _), List.take_left' (h2 _), List.take_left' (h8 _),
    List.reverse_reverse, ofNat_natLE_word, ofNat_natLE_half, ofNat_natLE_half, ofNat_natLE_long]

/-- **The bytes of a GUID that was read are the bytes it was read from.** -/
theorem toBytes_ofBytes {bs : Bytes} (h : 16 ≤ bs.length) : (ofBytes bs).toBytes = bs.take 16 := by
  have l1 : (bs.take 4).length = 4 := by rw [List.length_take]; omega
  have l2 : ((bs.drop 4).take 2).length = 2 := by rw [List.length_take, List.length_drop]; omega
  have l3 : ((bs.drop 6).take 2).length = 2 := by rw [List.length_take, List.length_drop]; omega
  have l4 : ((bs.drop 8).take 8).reverse.length = 8 := by
    rw [List.length_reverse, List.length_take, List.length_drop]; omega
  have n1 : (UInt32.ofNat (Bytes.natLE (bs.take 4))).toNat = Bytes.natLE (bs.take 4) := by
    rw [UInt32.toNat_ofNat']
    exact Nat.mod_eq_of_lt (Bytes.natLE_lt_of_length l1)
  have n2 : (UInt16.ofNat (Bytes.natLE ((bs.drop 4).take 2))).toNat = Bytes.natLE ((bs.drop 4).take 2) := by
    rw [UInt16.toNat_ofNat']
    exact Nat.mod_eq_of_lt (Bytes.natLE_lt_of_length l2)
  have n3 : (UInt16.ofNat (Bytes.natLE ((bs.drop 6).take 2))).toNat = Bytes.natLE ((bs.drop 6).take 2) := by
    rw [UInt16.toNat_ofNat']
    exact Nat.mod_eq_of_lt (Bytes.natLE_lt_of_length l3)
  have n4 : (UInt64.ofNat (Bytes.natLE ((bs.drop 8).take 8).reverse)).toNat =
      Bytes.natLE ((bs.drop 8).take 8).reverse := by
    rw [UInt64.toNat_ofNat']
    exact Nat.mod_eq_of_lt (Bytes.natLE_lt_of_length l4)
  simp only [ofBytes, toBytes]
  rw [n1, n2, n3, n4, Bytes.littleEndian_natLE_of_length l1, Bytes.littleEndian_natLE_of_length l2,
    Bytes.littleEndian_natLE_of_length l3, Bytes.littleEndian_natLE_of_length l4, List.reverse_reverse,
    ← List.take_add, ← List.take_add, ← List.take_add]

end Guid
end FirmwareVars
