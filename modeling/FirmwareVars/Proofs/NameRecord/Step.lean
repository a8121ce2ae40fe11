import FirmwareVars.NameRecord
import FirmwareVars.Proofs.Guid.Bytes
import FirmwareVars.Proofs.Utf16
/-!
# One step of a walk

`Fronts r buffer rest` says that a record stands at the front of a buffer, without reading it: the bytes are the
record's own, and the record says that it is the last exactly when nothing follows it.  Reading the first record finds
this and nothing else (`readFirst_eq_ok_iff`), so no slack is left between what the reader takes and what the writer
makes.

A walk that has met no error stands at some offset before some bytes, and is over exactly when there are none
(`Walk.before`).  From there a step shows a record that fronts the bytes, or an error at the offset (`next_before`).
-/
namespace FirmwareVars
namespace NameRecord

/-! ## The bytes of a record -/

theorem length_header (distance : Nat) (g : Guid) :
    (Bytes.littleEndian 4 distance ++ g.toBytes).length = recordHeader := by
  rw [List.length_append, Bytes.length_littleEndian, Guid.length_toBytes]
  rfl

@[simp] theorem length_render (distance : Nat) (i : Identity) : (render distance i).length = length i := by
  rw [render, List.length_append, length_header, Utf16.length_toBytes]
  rfl

theorem recordHeader_le_length (i : Identity) : recordHeader ≤ length i := Nat.le_add_right _ _

theorem length_pos (i : Identity) : 0 < length i := Nat.lt_of_lt_of_le (by decide) (recordHeader_le_length i)

/-- **A name is read from its bytes and from no others.** -/
theorem readName_eq_ok_iff {bs : Bytes} {name : Text} :
    readName bs = .ok name ↔ bs = Utf16.toBytes (Utf16.encode name) := by
  constructor
  · intro h
    unfold readName at h
    split at h
    · cases h
    rename_i units hu
    split at h
    · cases h
    rename_i name' hn
    cases h
    rw [Utf16.unitsOf?_eq_some_iff.1 hu, Utf16.decode?_eq_some_iff.1 hn]
  · rintro rfl
    simp only [readName, Utf16.unitsOf?_toBytes, Utf16.decode?_encode]

/-! ## The first record -/

/-- The record stands at the front of the buffer, and `rest` follows it. -/
structure Fronts (r : NameRecord) (buffer rest : Bytes) : Prop where
  bytes : buffer = render r.next.toNat r.identity ++ rest
  /-- The last record says so; any other says how long it is. -/
  chained : r.next = 0 ∧ rest = [] ∨ r.next.toNat = length r.identity ∧ rest ≠ []

theorem Fronts.length_eq {r : NameRecord} {buffer rest : Bytes} (h : Fronts r buffer rest) :
    buffer.length = length r.identity + rest.length := by
  rw [h.bytes, List.length_append, length_render]

theorem Fronts.drop_eq {r : NameRecord} {buffer rest : Bytes} (h : Fronts r buffer rest) :
    buffer.drop (length r.identity) = rest := by
  rw [h.bytes]
  exact List.drop_left' (length_render _ _)

/-- The record is the last one exactly when nothing follows it. -/
theorem Fronts.next_eq_zero {r : NameRecord} {buffer rest : Bytes} (h : Fronts r buffer rest) :
    (r.next == 0) = rest.isEmpty := by
  rcases h.chained with ⟨hn, hr⟩ | ⟨hn, hr⟩
  · rw [hn, hr]
    rfl
  · have hne : r.next ≠ 0 := by
      intro h0
      have := length_pos r.identity
      rw [h0] at hn
      exact absurd hn (by simp only [UInt32.toNat_zero]; omega)
    rw [beq_eq_false_iff_ne.2 hne, List.isEmpty_eq_false_iff.2 hr]

theorem Fronts.next_eq_length {r : NameRecord} {buffer rest : Bytes} (h : Fronts r buffer rest) (hne : rest ≠ []) :
    r.next.toNat = length r.identity := by
  rcases h.chained with ⟨-, hnil⟩ | ⟨hn, -⟩
  · exact absurd hnil hne
  · exact hn

/-- **How long the first record is**: the whole buffer after a zero, and otherwise what the field says, when that
leaves something over. -/
theorem span_eq_ok_iff {distance left size : Nat} :
    span distance left = .ok size ↔
      distance = 0 ∧ size = left ∨ recordHeader ≤ distance ∧ distance < left ∧ size = distance := by
  unfold span
  have : 0 < recordHeader := by decide
  constructor
  · intro h
    split at h
    · cases h
      exact .inl ⟨by assumption, rfl⟩
    split at h
    · cases h
    split at h
    · cases h
      exact .inr ⟨by omega, by assumption, rfl⟩
    split at h <;> cases h
  · rintro (⟨rfl, rfl⟩ | ⟨h1, h2, rfl⟩)
    · rfl
    · rw [if_neg (by omega), if_neg (by omega), if_pos h2]

/-- What is read of a header and the bytes behind it. -/
theorem readFirst_header (offset : Nat) {distance : Nat} (h : distance < UInt32.size) (g : Guid) (bytes : Bytes) :
    readFirst offset (Bytes.littleEndian 4 distance ++ g.toBytes ++ bytes) =
      match span distance (recordHeader + bytes.length) with
      | .error fault => .error fault
      | .ok size =>
        match readName (bytes.take (size - recordHeader)) with
        | .error fault => .error fault
        | .ok name => .ok (⟨offset, UInt32.ofNat distance, g, name⟩, size) := by
  have h4 : (Bytes.littleEndian 4 distance).length = 4 := Bytes.length_littleEndian 4 distance
  have hhead := length_header distance g
  have hfield : Bytes.natLE ((Bytes.littleEndian 4 distance ++ g.toBytes ++ bytes).take 4) = distance := by
    rw [List.append_assoc, List.take_left' h4]
    exact Bytes.natLE_littleEndian_of_lt h
  have hguid : Guid.ofBytes ((Bytes.littleEndian 4 distance ++ g.toBytes ++ bytes).drop 4) = g := by
    rw [List.append_assoc, List.drop_left' h4]
    exact Guid.ofBytes_append g bytes
  have hname (size : Nat) : ((Bytes.littleEndian 4 distance ++ g.toBytes ++ bytes).take size).drop recordHeader =
      bytes.take (size - recordHeader) := by
    rw [List.drop_take, List.drop_left' hhead]
  have hlen : (Bytes.littleEndian 4 distance ++ g.toBytes ++ bytes).length = recordHeader + bytes.length := by
    rw [List.length_append, hhead]
  have hlong := Nat.not_lt.2 (Nat.le_add_right recordHeader bytes.length)
  cases hspan : span distance (recordHeader + bytes.length) with
  | error fault => simp only [readFirst, hlen, if_neg hlong, hfield, hspan]
  | ok size =>
    cases hread : readName (bytes.take (size - recordHeader)) <;>
      simp only [readFirst, hlen, if_neg hlong, hfield, hspan, hname, hread, hguid]

theorem readFirst_of_fronts {r : NameRecord} {buffer rest : Bytes} (h : Fronts r buffer rest) :
    readFirst r.offset buffer = .ok (r, length r.identity) := by
  have hlen := h.length_eq
  have hhead := recordHeader_le_length r.identity
  have hspan : span r.next.toNat buffer.length = .ok (length r.identity) := by
    rw [span_eq_ok_iff]
    rcases h.chained with ⟨hn, hr⟩ | ⟨hn, hr⟩
    · left
      rw [hn, hlen, hr]
      exact ⟨rfl, rfl⟩
    · right
      have := List.length_pos_iff.2 hr
      exact ⟨by omega, by omega, hn.symm⟩
  have hbytes : buffer =
      Bytes.littleEndian 4 r.next.toNat ++ r.guid.toBytes ++ (Utf16.toBytes (Utf16.encode r.name) ++ rest) := by
    rw [h.bytes, render, List.append_assoc]
    rfl
  have hleft : recordHeader + (Utf16.toBytes (Utf16.encode r.name) ++ rest).length = buffer.length := by
    have hsum := congrArg List.length hbytes
    rw [List.length_append, length_header] at hsum
    exact hsum.symm
  have hname : readName ((Utf16.toBytes (Utf16.encode r.name) ++ rest).take (length r.identity - recordHeader)) =
      .ok r.name := by
    rw [readName_eq_ok_iff, length, Nat.add_sub_cancel_left]
    exact List.take_left' (Utf16.length_toBytes _)
  rw [hbytes, readFirst_header r.offset r.next.toNat_lt, hleft, hspan]
  simp only [hname, UInt32.ofNat_toNat]

/-- The header of a buffer that is long enough for one, put together again. -/
theorem header_append {buffer : Bytes} (h : recordHeader ≤ buffer.length) :
    Bytes.littleEndian 4 (Bytes.natLE (buffer.take 4)) ++ (Guid.ofBytes (buffer.drop 4)).toBytes =
      buffer.take recordHeader := by
  have hlen : recordHeader = 20 := rfl
  have h4 : (buffer.take 4).length = 4 := by rw [List.length_take]; omega
  rw [Bytes.littleEndian_natLE_of_length h4, Guid.toBytes_ofBytes (by rw [List.length_drop]; omega), hlen,
    ← List.take_add]

theorem fronts_of_readFirst {offset size : Nat} {r : NameRecord} {buffer : Bytes}
    (h : readFirst offset buffer = .ok (r, size)) :
    r.offset = offset ∧ size = length r.identity ∧ Fronts r buffer (buffer.drop size) := by
  unfold readFirst at h
  split at h
  · cases h
  rename_i hshort
  simp only at h
  split at h
  · cases h
  rename_i size' hspan
  split at h
  · cases h
  rename_i name hname
  cases h
  have hhead : recordHeader ≤ buffer.length := by omega
  have h4 : (buffer.take 4).length = 4 := by
    have : recordHeader = 20 := rfl
    rw [List.length_take]
    omega
  have hnext : (UInt32.ofNat (Bytes.natLE (buffer.take 4))).toNat = Bytes.natLE (buffer.take 4) := by
    rw [UInt32.toNat_ofNat']
    exact Nat.mod_eq_of_lt (Bytes.natLE_lt_of_length h4)
  rw [span_eq_ok_iff] at hspan
  have hsize : recordHeader ≤ size ∧ size ≤ buffer.length := by omega
  have htake : (buffer.take size).take recordHeader = buffer.take recordHeader := by
    rw [List.take_take, Nat.min_eq_left hsize.1]
  have hrender : render (Bytes.natLE (buffer.take 4)) ⟨name, Guid.ofBytes (buffer.drop 4)⟩ = buffer.take size := by
    rw [render, header_append hhead, ← readName_eq_ok_iff.1 hname, ← htake, List.take_append_drop]
  have hlength : size = length ⟨name, Guid.ofBytes (buffer.drop 4)⟩ := by
    rw [← length_render (Bytes.natLE (buffer.take 4)), hrender, List.length_take, Nat.min_eq_left hsize.2]
  refine ⟨rfl, hlength, ?_, ?_⟩
  · simp only [identity, hnext, hrender, List.take_append_drop]
  · simp only [identity, hnext, ← hlength]
    rcases hspan with ⟨hz, hl⟩ | ⟨-, hlt, hd⟩
    · left
      rw [hz, hl]
      exact ⟨rfl, List.drop_length⟩
    · right
      refine ⟨hd.symm, fun hnil => ?_⟩
      have := List.drop_eq_nil_iff.1 hnil
      omega

/-- **Reading the first record finds exactly a record that fronts the buffer.** -/
theorem readFirst_eq_ok_iff {offset size : Nat} {r : NameRecord} {buffer : Bytes} :
    readFirst offset buffer = .ok (r, size) ↔
      r.offset = offset ∧ size = length r.identity ∧ Fronts r buffer (buffer.drop size) := by
  refine ⟨fronts_of_readFirst, ?_⟩
  rintro ⟨rfl, rfl, h⟩
  exact readFirst_of_fronts h

/-! ## A step -/

/-- A walk that has met no error: it stands at an offset before some bytes. -/
def Walk.before (offset : Nat) (left : Bytes) : Walk := ⟨offset, left, left.isEmpty⟩

theorem Walk.ofBuffer_eq (buffer : Bytes) : Walk.ofBuffer buffer = Walk.before 0 buffer := rfl

theorem Walk.next_before_nil (offset : Nat) : (Walk.before offset []).next = (none, Walk.before offset []) := rfl

/-- **A step over a record** shows it and stands behind it. -/
theorem Walk.next_before_of_fronts {r : NameRecord} {buffer rest : Bytes} (h : Fronts r buffer rest) :
    (Walk.before r.offset buffer).next = (some (.ok r), Walk.before (r.offset + length r.identity) rest) := by
  have hne : buffer.isEmpty = false := by
    have := h.length_eq
    have := length_pos r.identity
    exact List.isEmpty_eq_false_iff.2 (List.ne_nil_of_length_pos (by omega))
  simp only [Walk.next, Walk.before, hne, readFirst_of_fronts h, h.drop_eq, h.next_eq_zero, Bool.false_eq_true,
    if_false]

/-- A step before bytes that begin with no record shows the error and ends the walk there. -/
theorem Walk.next_before_of_error {offset : Nat} {buffer : Bytes} {fault : RecordFault} (hne : buffer ≠ [])
    (h : readFirst offset buffer = .error fault) :
    (Walk.before offset buffer).next = (some (.error (.record offset fault)), ⟨offset, buffer, true⟩) := by
  have hb : buffer.isEmpty = false := List.isEmpty_eq_false_iff.2 hne
  simp only [Walk.next, Walk.before, hb, h, Bool.false_eq_true, if_false]

/-- **What a step before some bytes is**: it shows a record that fronts them, or an error at its own offset. -/
theorem Walk.next_before (offset : Nat) {buffer : Bytes} (hne : buffer ≠ []) :
    (∃ r rest, r.offset = offset ∧ Fronts r buffer rest) ∨
      ∃ fault, (Walk.before offset buffer).next = (some (.error (.record offset fault)), ⟨offset, buffer, true⟩) := by
  cases hr : readFirst offset buffer with
  | ok found =>
    obtain ⟨r, size⟩ := found
    obtain ⟨ho, -, hf⟩ := readFirst_eq_ok_iff.1 hr
    exact .inl ⟨r, _, ho, hf⟩
  | error fault => exact .inr ⟨fault, Walk.next_before_of_error hne hr⟩

end NameRecord
end FirmwareVars
