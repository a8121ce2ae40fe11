import FirmwareVars.Proofs.EntryName.Grammar
import FirmwareVars.Proofs.NameRecord.RoundTrip
import FirmwareVars.Proofs.Program.Output
import FirmwareVars.Proofs.Store.Enumeration
/-!
# Packed enumeration

The packed names of a store are the listing, packed.  Packing itself can fail, on a record too long for a 32-bit
distance, but no store has such a record: an identity that was read from an entry name has a record of less than twice
the bytes of the entry (`length_lt_of_spells`), and hosts do not have entry names that come near.  So packing fails only
where listing does, and the buffer is always decoded to what is listed (`packedNames_agrees_with_list`).

`Linked start rs stop` are records in a row, each of which says how far the next one is.
-/
namespace FirmwareVars
namespace NameRecord

open EntryName (Spells)

/-! ## Short enough -/

theorem length_lt_of_spells {entry : Text} {i : Identity} (h : Spells entry i) :
    length i < 2 * (Utf8.encode entry).length := by
  have hname := Utf16.length_encode_le i.name
  have hentry := h.length_encode
  unfold length recordHeader
  omega

/-- Identities that were read from short entry names can be packed. -/
theorem chainable_of_spells {entries : List Text} {ids : List Identity}
    (hids : entries.map EntryName.decode = ids.map .ok) (hshort : ∀ t ∈ entries, (Utf8.encode t).length < 2 ^ 31) :
    Chainable ids := by
  intro i hi
  obtain ⟨t, ht, hdecode⟩ := (Store.mem_iff_decode hids).1 (List.dropLast_subset ids hi)
  have hlength := length_lt_of_spells (EntryName.decode_eq_ok_iff.1 hdecode)
  have hentry := hshort t ht
  have hsize : UInt32.size = 2 ^ 32 := rfl
  omega

/-! ## In a row -/

/-- Records without gaps from `start` to `stop`: the last says zero, and any other how far the next one is. -/
inductive Linked : Nat → List NameRecord → Nat → Prop
  | nil (stop : Nat) : Linked stop [] stop
  | last {r : NameRecord} {stop : Nat} : r.next = 0 → stop = r.offset + length r.identity → Linked r.offset [r] stop
  | cons {r next : NameRecord} {rest : List NameRecord} {stop : Nat} : r.next ≠ 0 →
      r.next.toNat = length r.identity → Linked (r.offset + r.next.toNat) (next :: rest) stop →
      Linked r.offset (r :: next :: rest) stop

theorem chain_ne_nil (offset : Nat) (i : Identity) : ∀ ids : List Identity, ∃ r rs, chain offset (i :: ids) = r :: rs
  | [] => ⟨_, _, rfl⟩
  | _ :: _ => ⟨_, _, rfl⟩

/-- **The records of a chain are in a row**, from where the first begins to where the last ends. -/
theorem linked_chain : ∀ (ids : List Identity) (offset : Nat), Chainable ids →
    Linked offset (chain offset ids) (offset + total ids)
  | [], offset, _ => .nil offset
  | [i], offset, _ => Linked.last (r := place offset 0 i) rfl (by simp [total])
  | i :: j :: ids, offset, h => by
    rw [chainable_cons_cons] at h
    have hnext := toNat_ofNat_length h.1
    have ih := linked_chain (j :: ids) (offset + length i) h.2
    obtain ⟨r, rs, hr⟩ := chain_ne_nil (offset + length i) j ids
    rw [chain_cons_cons, hr, total_cons, ← Nat.add_assoc]
    rw [hr] at ih
    refine Linked.cons (r := place offset (UInt32.ofNat (length i)) i) ?_ hnext ?_
    · intro hzero
      have hpos := length_pos i
      have : (UInt32.ofNat (length i)).toNat = 0 := congrArg UInt32.toNat hzero
      omega
    · change Linked (offset + (UInt32.ofNat (length i)).toNat) _ _
      rw [hnext]
      exact ih

/-- **What was packed is decoded to records in a row**, from the start of the buffer to its end. -/
theorem linked_of_pack {ids : List Identity} {buffer : Bytes} (h : pack ids = .ok buffer) :
    ∃ rs, decode buffer = .ok rs ∧ rs.map identity = ids ∧ Linked 0 rs buffer.length := by
  obtain ⟨hc, hbuffer⟩ := pack_eq_ok_iff.1 h
  have hlinked := linked_chain ids 0 hc
  rw [Nat.zero_add, ← length_assemble, ← hbuffer] at hlinked
  exact ⟨chain 0 ids, decode_of_pack h, map_identity_chain 0 ids, hlinked⟩

end NameRecord

open Machine (fst_run_bind fst_run_mapError)

/-! ## What the runs give -/

namespace Store

theorem fst_run_packedNames (m : Machine) (s : Store) : (m.run s.packedNames.run).1 =
    (m.run s.list.run).1.bind fun ids => (NameRecord.pack ids).mapError .ofNaming := by
  refine fst_run_bind (fun ids m => ?_) m
  cases NameRecord.pack ids <;> rfl

end Store

namespace Program

theorem fst_run_list (m : Machine) (s : Store) (json : Bool) : (m.run (execute s (.list json)).run).1 =
    ((m.run s.list.run).1.mapError .store).bind fun _ => .ok () := by
  rw [← fst_run_mapError]
  refine fst_run_bind (fun ids m => ?_) m
  exact congrArg Prod.fst (run_print _ m)

theorem fst_run_names_decode (m : Machine) (s : Store) (out : Option Path) :
    (m.run (execute s (.names out true)).run).1 =
      ((m.run s.packedNames.run).1.mapError .store).bind fun buffer =>
        ((NameRecord.decode buffer).mapError .records).bind fun _ => .ok () := by
  rw [← fst_run_mapError]
  refine fst_run_bind (fun buffer m => ?_) m
  simp only [if_true]
  cases NameRecord.decode buffer with
  | error e => rfl
  | ok rs => exact congrArg Prod.fst (run_print _ m)

end Program

/-! ## The listing, packed -/

namespace Store

section Short

variable {m : Machine} {s : Store}
  (hshort : ∀ raws, m.files.list m.cwd s.root = .ok raws → ∀ raw ∈ raws, raw.length < 2 ^ 31)
include hshort

theorem pack_of_listed {ids : List Identity} (hok : (m.run s.list.run).1 = .ok ids) :
    NameRecord.pack ids = .ok (NameRecord.assemble ids) := by
  cases hdir : m.files.list m.cwd s.root with
  | error failure =>
    rw [run_list_refused hdir] at hok
    cases hok
  | ok raws =>
    obtain ⟨ts, hperm, -, hids⟩ := sorted_of_listed hdir hok
    refine NameRecord.pack_eq_ok_iff.2 ⟨NameRecord.chainable_of_spells hids fun t ht => ?_, rfl⟩
    exact hshort raws hdir _ (hperm.mem_iff.1 (List.mem_map_of_mem ht))

/-- **The packed names are the listing, assembled.** -/
theorem fst_run_packedNames_eq :
    (m.run s.packedNames.run).1 = (m.run s.list.run).1.map NameRecord.assemble := by
  rw [fst_run_packedNames]
  cases hlist : (m.run s.list.run).1 with
  | error e => rfl
  | ok ids =>
    simp only [Except.bind, pack_of_listed hshort hlist]
    rfl

/-- **Decoding the packed names fails only where listing does**, and as that does. -/
theorem fst_run_names_decode_eq (out : Option Path) :
    (m.run (Program.execute s (.names out true)).run).1 =
      ((m.run s.list.run).1.mapError .store).bind fun _ => .ok () := by
  rw [Program.fst_run_names_decode, fst_run_packedNames_eq hshort]
  cases hlist : (m.run s.list.run).1 with
  | error e => rfl
  | ok ids =>
    have hdecode := NameRecord.decode_of_pack (pack_of_listed hshort hlist)
    simp only [Except.map, Except.mapError, Except.bind, hdecode]

end Short

/-- **The packed enumeration agrees with the listing.**  In a directory whose entry names are shorter than two
gigabytes, packing the names succeeds exactly when listing does, and fails with the same error.  The buffer is decoded
to the identities that are listed, in their order, in records that lead from its start to its end.  So no record is too
long to be packed, and decoding the names on the command line never fails on the buffer: it succeeds exactly when
listing does, and fails with the same error. -/
theorem packedNames_agrees_with_list (m : Machine) (s : Store)
    (hshort : ∀ raws, m.files.list m.cwd s.root = .ok raws → ∀ raw ∈ raws, raw.length < 2 ^ 31) :
    ((∃ buffer, (m.run s.packedNames.run).1 = .ok buffer) ↔ ∃ ids, (m.run s.list.run).1 = .ok ids) ∧
    (∀ e, (m.run s.packedNames.run).1 = .error e ↔ (m.run s.list.run).1 = .error e) ∧
    (∀ buffer, (m.run s.packedNames.run).1 = .ok buffer →
      ∃ ids rs, (m.run s.list.run).1 = .ok ids ∧ NameRecord.decode buffer = .ok rs ∧
        rs.map NameRecord.identity = ids ∧ NameRecord.Linked 0 rs buffer.length) ∧
    (∀ ids e, (m.run s.list.run).1 = .ok ids → NameRecord.pack ids ≠ .error e) ∧
    ∀ (out : Option Path) (json : Bool),
      (∀ e, (m.run (Program.execute s (.names out true)).run).1 ≠ .error (.records e)) ∧
      ((m.run (Program.execute s (.names out true)).run).1 = .ok () ↔
        (m.run (Program.execute s (.list json)).run).1 = .ok ()) ∧
      ∀ e, (m.run (Program.execute s (.names out true)).run).1 = .error e ↔
        (m.run (Program.execute s (.list json)).run).1 = .error e := by
  have hpacked := fst_run_packedNames_eq hshort
  have hnames := fst_run_names_decode_eq hshort
  refine ⟨?_, fun e => ?_, fun buffer hbuffer => ?_, fun ids e hlist => ?_, fun out json => ?_⟩
  · rw [hpacked]
    cases (m.run s.list.run).1 <;> simp [Except.map]
  · rw [hpacked]
    cases (m.run s.list.run).1 <;> simp [Except.map]
  · cases hlist : (m.run s.list.run).1 with
    | error e =>
      rw [hpacked, hlist] at hbuffer
      cases hbuffer
    | ok ids =>
      rw [hpacked, hlist] at hbuffer
      cases hbuffer
      obtain ⟨rs, hdecode, hids, hlinked⟩ := NameRecord.linked_of_pack (pack_of_listed hshort hlist)
      exact ⟨ids, rs, rfl, hdecode, hids, hlinked⟩
  · rw [pack_of_listed hshort hlist]
    simp
  · -- both commands list first, and neither can fail after that
    rw [hnames, Program.fst_run_list]
    cases (m.run s.list.run).1 <;> simp [Except.mapError, Except.bind]

/-- Two entries out of order: a name that takes a surrogate pair, before upper-case digits, and a plain one. -/
theorem packedNames_agrees_surrogates :
    let big : Text := "😀-00000000-0000-0000-0000-00000000000A".toList
    let plain : Text := "B-00000000-0000-0000-0000-00000000000b".toList
    let ids : List Identity := [⟨['B'], ⟨0, 0, 0, 11⟩⟩, ⟨['😀'], ⟨0, 0, 0, 10⟩⟩]
    let m : Machine := ⟨⟨([[0x64]], .directory) :: [big, plain].map fun t => ([[0x64], Utf8.encode t], .file [])⟩,
      [], [], []⟩
    let s : Store := .atRoot ⟨[0x64]⟩
    m.files.list m.cwd s.root = .ok ([big, plain].map Utf8.encode) ∧
      (∀ t ∈ [big, plain], (Utf8.encode t).length < 2 ^ 31) ∧ (m.run s.list.run).1 = .ok ids ∧
      ∃ buffer rs, (m.run s.packedNames.run).1 = .ok buffer ∧ NameRecord.decode buffer = .ok rs ∧
        rs.map NameRecord.identity = ids ∧ NameRecord.Linked 0 rs buffer.length := by
  intro big plain ids m s
  have hdir : m.files.list m.cwd s.root = .ok ([big, plain].map Utf8.encode) := by decide +kernel
  have hlengths : ∀ t ∈ [big, plain], (Utf8.encode t).length < 2 ^ 31 := by decide +kernel
  have hlist : (m.run s.list.run).1 = .ok ids := by
    have hbefore : EntryName.Before plain big := by
      unfold EntryName.Before
      decide +kernel
    have hsort : EntryName.sort [big, plain] = [plain, big] :=
      EntryName.sort_unique (.swap big plain []) (List.pairwise_pair.2 hbefore)
    have hids : (EntryName.sort [big, plain]).map EntryName.decode = ids.map .ok := by
      rw [hsort]
      decide +kernel
    rw [run_list_ok hdir hids]
  have hshort : ∀ raws, m.files.list m.cwd s.root = .ok raws → ∀ raw ∈ raws, raw.length < 2 ^ 31 := by
    intro raws h
    rw [hdir] at h
    cases h
    exact List.forall_mem_map.2 hlengths
  obtain ⟨hiff, -, hdecode, -⟩ := packedNames_agrees_with_list m s hshort
  obtain ⟨buffer, hbuffer⟩ := hiff.2 ⟨_, hlist⟩
  obtain ⟨ids', rs, hids, hrs, hmap, hlinked⟩ := hdecode buffer hbuffer
  obtain rfl : ids = ids' := Except.ok.inj (hlist.symm.trans hids)
  exact ⟨hdir, hlengths, hlist, buffer, rs, hbuffer, hrs, hmap, hlinked⟩

end Store
end FirmwareVars
