import FirmwareVars.Proofs.NameRecord.Chain
/-!
# Packed names, there and back

Packing and decoding undo each other.  What was packed is decoded to the same identities, each at the place where the
records before it end and with the distance that leads to the next one (`decode_pack`).  What can be decoded was packed,
byte for byte (`pack_of_walk`): the format has one form for a list of identities, with no gap, no overlap and nothing
behind the last record.
-/
namespace FirmwareVars
namespace NameRecord

/-! ## The records of a chain -/

theorem map_identity_chain : ∀ (offset : Nat) (ids : List Identity), (chain offset ids).map identity = ids
  | _, [] => rfl
  | _, [_] => rfl
  | offset, i :: j :: ids => by
    rw [chain_cons_cons, List.map_cons, map_identity_chain (offset + length i) (j :: ids)]
    rfl

/-- **The places of a chain**: the record of the `k`-th identity begins where the ones before it end, and says how long
it is unless it is the last. -/
theorem chain_at : ∀ (ids : List Identity) (offset k : Nat) (i : Identity), ids[k]? = some i →
    (chain offset ids)[k]? =
      some (place (offset + total (ids.take k)) (if k + 1 = ids.length then 0 else UInt32.ofNat (length i)) i)
  | [], _, _, _, h => by cases h
  | [j], offset, 0, i, h => by
    cases h
    rfl
  | [_], _, _ + 1, _, h => by cases h
  | i :: j :: ids, offset, 0, i', h => by
    cases h
    rw [chain_cons_cons, List.getElem?_cons_zero, if_neg (by simp)]
    rfl
  | i :: j :: ids, offset, k + 1, i', h => by
    have ih := chain_at (j :: ids) (offset + length i) k i' (by simpa using h)
    have hlast : (k + 1 + 1 = (i :: j :: ids).length) = (k + 1 = (j :: ids).length) := by
      rw [List.length_cons, Nat.succ_inj]
    rw [chain_cons_cons, List.getElem?_cons_succ, ih, List.take_succ_cons, total_cons, ← Nat.add_assoc]
    simp only [hlast]

/-- An identity that is not the last of the list is among those that need an offset. -/
theorem mem_dropLast_of_getElem? {ids : List Identity} {k : Nat} {i : Identity} (h : ids[k]? = some i)
    (hk : k + 1 ≠ ids.length) : i ∈ ids.dropLast := by
  obtain ⟨hlt, -⟩ := List.getElem?_eq_some_iff.1 h
  have hk' : k < ids.length - 1 := by omega
  have htake : (ids.take (ids.length - 1))[k]? = some i := by rw [List.getElem?_take_of_lt hk', h]
  rw [List.dropLast_eq_take]
  exact List.mem_of_getElem? htake

/-- What a record of a chain says about the next one. -/
theorem next_of_chain {ids : List Identity} (hc : Chainable ids) {k : Nat} {i : Identity} (h : ids[k]? = some i) :
    (if k + 1 = ids.length then (0 : UInt32) else UInt32.ofNat (length i)).toNat =
      if k + 1 = ids.length then 0 else length i := by
  by_cases hk : k + 1 = ids.length
  · rw [if_pos hk, if_pos hk]
    rfl
  · rw [if_neg hk, if_neg hk]
    exact toNat_ofNat_length (hc i (mem_dropLast_of_getElem? h hk))

/-- **An assembled buffer is its records one after the other.** -/
theorem assemble_eq_flatMap_chain : ∀ (ids : List Identity) (offset : Nat), Chainable ids →
    assemble ids = (chain offset ids).flatMap fun r => render r.next.toNat r.identity
  | [], _, _ => rfl
  | [_], _, _ => (List.append_nil _).symm
  | i :: j :: ids, offset, h => by
    rw [chainable_cons_cons] at h
    rw [assemble_cons_cons, chain_cons_cons, List.flatMap_cons,
      ← assemble_eq_flatMap_chain (j :: ids) (offset + length i) h.2]
    change _ = render (UInt32.ofNat (length i)).toNat i ++ _
    rw [toNat_ofNat_length h.1]

/-! ## Decoding -/

/-- **What can be decoded is exactly what is packed**, and it is decoded to its chain. -/
theorem decode_eq_ok_iff {buffer : Bytes} {rs : List NameRecord} :
    decode buffer = .ok rs ↔ pack (rs.map identity) = .ok buffer ∧ rs = chain 0 (rs.map identity) := by
  rw [decode, collect_eq_ok_iff]
  refine ⟨pack_of_walk_eq, ?_⟩
  rintro ⟨hp, hrs⟩
  rw [walk_of_pack hp, ← hrs]

theorem decode_of_pack {ids : List Identity} {buffer : Bytes} (h : pack ids = .ok buffer) :
    decode buffer = .ok (chain 0 ids) := by
  rw [decode_eq_ok_iff, map_identity_chain]
  exact ⟨h, rfl⟩

/-- **Decoding what was packed.**  Identities can be packed exactly when every record but the last is shorter than four
gigabytes, and the error names one that is not.  The packed buffer has the length of all records, and is decoded to one
record for each identity, in order: it begins where the records before it end, and says how far the next one is, which
is zero in the last. -/
theorem decode_pack (ids : List Identity) :
    ((∃ buffer, pack ids = .ok buffer) ↔ ∀ i ∈ ids.dropLast, length i ≤ 2 ^ 32 - 1) ∧
    (∀ e, pack ids = .error e →
      ∃ i ∈ ids.dropLast, 2 ^ 32 - 1 < length i ∧ e = .identity (.longRecord i.name (length i))) ∧
    ∀ buffer, pack ids = .ok buffer →
      buffer.length = (ids.map length).sum ∧
      ∃ rs, decode buffer = .ok rs ∧ rs.length = ids.length ∧
        ∀ k i, ids[k]? = some i → ∃ r, rs[k]? = some r ∧ r.identity = i ∧
          r.offset = ((ids.take k).map length).sum ∧
          r.next.toNat = if k + 1 = ids.length then 0 else length i := by
  have hsize : UInt32.size = 2 ^ 32 := rfl
  refine ⟨⟨?_, ?_⟩, ?_, ?_⟩
  · rintro ⟨buffer, h⟩ i hi
    have := (pack_eq_ok_iff.1 h).1 i hi
    omega
  · intro h
    refine ⟨assemble ids, pack_eq_ok_iff.2 ⟨fun i hi => ?_, rfl⟩⟩
    have := h i hi
    omega
  · intro e h
    obtain ⟨i, hi, hlong, he⟩ := long_of_pack_eq_error h
    exact ⟨i, hi, by omega, he⟩
  · intro buffer h
    obtain ⟨hc, hb⟩ := pack_eq_ok_iff.1 h
    refine ⟨?_, chain 0 ids, decode_of_pack h, ?_, ?_⟩
    · rw [hb, length_assemble]
      rfl
    · rw [← List.length_map identity, map_identity_chain]
    · intro k i hk
      refine ⟨_, chain_at ids 0 k i hk, rfl, ?_, next_of_chain hc hk⟩
      exact Nat.zero_add _

/-- A name outside the basic plane before an empty one. -/
theorem decode_pack_pair : ∃ buffer rs, pack [⟨['😀', '-'], default⟩, ⟨[], default⟩] = .ok buffer ∧
    buffer.length = 46 ∧ decode buffer = .ok rs ∧ rs.length = 2 ∧
    ∃ r, rs[1]? = some r ∧ r.identity = ⟨[], default⟩ ∧ r.offset = 26 ∧ r.next.toNat = 0 := by
  have h := decode_pack [⟨['😀', '-'], default⟩, ⟨[], default⟩]
  obtain ⟨buffer, hb⟩ := h.1.2 (by decide)
  obtain ⟨hlen, rs, hd, hrs, hat⟩ := h.2.2 buffer hb
  exact ⟨buffer, rs, hb, hlen, hd, hrs, hat 1 _ rfl⟩

/-! ## One form for a list of identities -/

/-- **Packing what was walked.**  A walk that shows no error shows identities that are packed into the very bytes it
went over, and is over then.  So the buffers that can be decoded are those that were packed, each is its records one
after the other, which begin and lead on where they should, and two of them with the same identities are the same. -/
theorem pack_of_walk (data : Bytes) :
    (∀ rs : List NameRecord, (walk data).1 = rs.map .ok →
      pack (rs.map identity) = .ok data ∧ (walk data).2.next.1 = none) ∧
    ((∃ rs, decode data = .ok rs) ↔ ∃ ids, pack ids = .ok data) ∧
    (∀ rs, decode data = .ok rs →
      (data = rs.flatMap fun r => render r.next.toNat r.identity) ∧
      ∀ k r, rs[k]? = some r →
        r.offset = ((rs.take k).map fun r => length r.identity).sum ∧
        r.next.toNat = if k + 1 = rs.length then 0 else length r.identity) ∧
    ∀ (other : Bytes) (rs rs' : List NameRecord), decode data = .ok rs → decode other = .ok rs' →
      rs.map identity = rs'.map identity → data = other := by
  refine ⟨?_, ⟨?_, ?_⟩, ?_, ?_⟩
  · intro rs h
    obtain ⟨hp, -⟩ := pack_of_walk_eq h
    refine ⟨hp, ?_⟩
    rw [walk_of_pack hp, Walk.next_before_nil]
  · rintro ⟨rs, h⟩
    exact ⟨_, (decode_eq_ok_iff.1 h).1⟩
  · rintro ⟨ids, h⟩
    exact ⟨_, decode_of_pack h⟩
  · intro rs h
    obtain ⟨hp, hrs⟩ := decode_eq_ok_iff.1 h
    obtain ⟨hc, hb⟩ := pack_eq_ok_iff.1 hp
    refine ⟨?_, fun k r hk => ?_⟩
    · rw [hb, assemble_eq_flatMap_chain _ 0 hc, ← hrs]
    · have hi : (rs.map identity)[k]? = some r.identity := by rw [List.getElem?_map, hk]; rfl
      have hplace := chain_at _ 0 k _ hi
      rw [← hrs, hk] at hplace
      have hr := Option.some.inj hplace
      have hnext := next_of_chain hc hi
      rw [List.length_map] at hnext hr
      refine ⟨?_, ?_⟩
      · rw [hr, offset_place, Nat.zero_add, ← List.map_take, total, List.map_map]
        rfl
      · rw [← hnext]
        exact congrArg (fun r => r.next.toNat) hr
  · intro other rs rs' h h' heq
    have hp := (decode_eq_ok_iff.1 h).1
    rw [heq, (decode_eq_ok_iff.1 h').1] at hp
    exact (Except.ok.inj hp).symm

/-- The walk over two records, the first with a name that takes a surrogate pair; with one more byte behind them there is
an error. -/
theorem pack_of_walk_pair :
    let g : Guid := ⟨0x8be4df61, 0x93ca, 0x11d2, 0xaa0d00e098032b8c⟩
    let g' : Guid := ⟨0xd719b2cb, 0x3d3a, 0x4596, 0xa3bcdad00e67656f⟩
    let rs : List NameRecord := [⟨0, 26, g, ['😀', '-']⟩, ⟨26, 0, g', "db".toList⟩]
    let data : Bytes :=
      [0x1a, 0, 0, 0] ++ [0x61, 0xdf, 0xe4, 0x8b, 0xca, 0x93, 0xd2, 0x11, 0xaa, 0x0d, 0x00, 0xe0, 0x98, 0x03, 0x2b, 0x8c] ++
      [0x3d, 0xd8, 0x00, 0xde, 0x2d, 0] ++
      [0, 0, 0, 0] ++ [0xcb, 0xb2, 0x19, 0xd7, 0x3a, 0x3d, 0x96, 0x45, 0xa3, 0xbc, 0xda, 0xd0, 0x0e, 0x67, 0x65, 0x6f] ++
      [0x64, 0, 0x62, 0]
    (walk data).1 = rs.map .ok ∧ pack [⟨['😀', '-'], g⟩, ⟨"db".toList, g'⟩] = .ok data ∧ (walk data).2.next.1 = none ∧
      decode data = .ok rs ∧ (data = rs.flatMap fun r => render r.next.toNat r.identity) ∧
      (∀ other, decode other = .ok rs → data = other) ∧ ¬ ∃ rs, decode (data ++ [0]) = .ok rs := by
  intro g g' rs data
  have hwalk : (walk data).1 = rs.map .ok := by decide +kernel
  have hdecode : decode data = .ok rs := by decide +kernel
  obtain ⟨hpack, -, htiles, hinj⟩ := pack_of_walk data
  refine ⟨hwalk, (hpack rs hwalk).1, (hpack rs hwalk).2, hdecode, (htiles rs hdecode).1,
    fun other hother => hinj other rs rs hdecode hother rfl, ?_⟩
  rintro ⟨rs', h⟩
  have herror : decode (data ++ [0]) = .error (.record 26 .splitUnit) := by decide +kernel
  rw [herror] at h
  cases h

end NameRecord
end FirmwareVars
