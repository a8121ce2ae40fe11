import FirmwareVars.Proofs.NameRecord.Chain
import Mathlib.Data.List.Basic
/-!
# Walks over any bytes

`Walks` relates bytes to what a walk over them comes to: the records that it shows, and the fault that it breaks off
with, if any.  All bytes are walked in some way (`exists_walks`), and the calls of the walk show exactly that
(`Walks.call`), so what holds along `Walks` holds of every walk.  The bytes before the fault are those of the records
shown, and each of these says how long it is (`Walks.take_eq`, `Walks.next_eq`).

`readAt?` reads a record within a whole buffer, and gives nothing where that takes bytes that are not there.  A walk never
stands where this happens (`walk_exact`).
-/
namespace FirmwareVars
namespace NameRecord

/-- The bytes from `start` up to `stop`, when the buffer has them. -/
def slice? (data : Bytes) (start stop : Nat) : Option Bytes :=
  if start ≤ stop ∧ stop ≤ data.length then some ((data.take stop).drop start) else none

/-- Reads the record at a position of a whole buffer.  Nothing comes of a position behind the end, from which a negative
number of bytes is left, nor of a header or a name that is not within the buffer. -/
def readAt? (data : Bytes) (start : Nat) : Option (Except RecordFault (NameRecord × Nat)) :=
  if data.length < start then none
  else if data.length - start < recordHeader then some (.error (.shortHeader (data.length - start)))
  else match slice? data start (start + recordHeader) with
    | none => none
    | some header =>
      match span (Bytes.natLE (header.take 4)) (data.length - start) with
      | .error fault => some (.error fault)
      | .ok size =>
        match slice? data (start + recordHeader) (start + size) with
        | none => none
        | some bytes =>
          match readName bytes with
          | .error fault => some (.error fault)
          | .ok name =>
            some (.ok (⟨start, UInt32.ofNat (Bytes.natLE (header.take 4)), Guid.ofBytes (header.drop 4), name⟩, size))

theorem slice?_add {data : Bytes} {start i j : Nat} (hstart : start ≤ data.length) (hij : i ≤ j)
    (hj : j ≤ data.length - start) :
    slice? data (start + i) (start + j) = some (((data.drop start).take j).drop i) := by
  rw [slice?, if_pos ⟨by omega, by omega⟩, List.take_drop, List.drop_drop]

theorem ofBytes_take (bs : Bytes) (h : 16 ≤ bs.length) : Guid.ofBytes (bs.take 16) = Guid.ofBytes bs := by
  have hback := Guid.ofBytes_append (Guid.ofBytes bs) []
  rwa [Guid.toBytes_ofBytes h, List.append_nil] at hback

/-- **Within the buffer, reading at a position is reading what is left there.** -/
theorem readAt?_eq {data : Bytes} {start : Nat} (h : start ≤ data.length) :
    readAt? data start = some (readFirst start (data.drop start)) := by
  have hleft : (data.drop start).length = data.length - start := List.length_drop
  have hhead : recordHeader = 20 := rfl
  unfold readAt? readFirst
  rw [if_neg (Nat.not_lt.2 h), hleft]
  by_cases hshort : data.length - start < recordHeader
  · rw [if_pos hshort, if_pos hshort]
  have hheader := slice?_add h (Nat.zero_le recordHeader) (Nat.not_lt.1 hshort)
  rw [Nat.add_zero, List.drop_zero] at hheader
  have hfield : ((data.drop start).take recordHeader).take 4 = (data.drop start).take 4 := by
    rw [List.take_take]
    rfl
  have hguid : Guid.ofBytes (((data.drop start).take recordHeader).drop 4) = Guid.ofBytes ((data.drop start).drop 4) := by
    rw [List.drop_take]
    exact ofBytes_take _ (by rw [List.length_drop]; omega)
  rw [if_neg hshort, if_neg hshort]
  simp only [hheader, hfield, hguid]
  cases hspan : span (Bytes.natLE ((data.drop start).take 4)) (data.length - start) with
  | error fault => rfl
  | ok size =>
    have hsize : recordHeader ≤ size ∧ size ≤ data.length - start := by
      rw [span_eq_ok_iff] at hspan
      omega
    simp only [slice?_add h hsize.1 hsize.2]
    cases readName (((data.drop start).take size).drop recordHeader) <;> rfl

/-! ## Where a walk stands -/

/-- A walk over a buffer stands within it, before the bytes that are left; one that is not over has some left. -/
structure Walk.Within (data : Bytes) (w : Walk) : Prop where
  offset_le : w.offset ≤ data.length
  left_eq : w.left = data.drop w.offset
  lt_of_going : w.ended = false → w.offset < data.length

theorem Walk.within_ofBuffer (data : Bytes) : Walk.Within data (Walk.ofBuffer data) where
  offset_le := Nat.zero_le _
  left_eq := rfl
  lt_of_going h := List.length_pos_iff.2 (List.isEmpty_eq_false_iff.1 h)

/-- **A step keeps the walk within the buffer**, whatever the bytes are. -/
theorem Walk.Within.next {data : Bytes} {w : Walk} (h : w.Within data) : w.next.2.Within data := by
  unfold Walk.next
  split
  next => exact h
  next =>
    split
    next => exact ⟨h.offset_le, h.left_eq, fun hgoing => by cases hgoing⟩
    next r size hread =>
      obtain ⟨-, rfl, hfronts⟩ := readFirst_eq_ok_iff.1 hread
      have hlen := hfronts.length_eq
      have hleft : w.left.length = data.length - w.offset := by rw [h.left_eq, List.length_drop]
      have hpos := length_pos r.identity
      refine ⟨by simp only; omega, by simp only [h.left_eq, List.drop_drop], fun hgoing => ?_⟩
      -- the record says that there is more, so there is
      have hrest : w.left.drop (length r.identity) ≠ [] :=
        List.isEmpty_eq_false_iff.1 (hfronts.next_eq_zero ▸ hgoing)
      have := List.length_pos_iff.2 hrest
      simp only
      omega

def Walk.after : Nat → Walk → Walk
  | 0, w => w
  | k + 1, w => Walk.after k w.next.2

theorem Walk.Within.after {data : Bytes} : ∀ (k : Nat) {w : Walk}, w.Within data → (w.after k).Within data
  | 0, _, h => h
  | k + 1, _, h => Walk.Within.after k h.next

theorem Walk.next_of_ended {w : Walk} (h : w.ended = true) : w.next = (none, w) := by
  rw [Walk.next, if_pos h]

theorem Walk.after_of_ended {w : Walk} (h : w.ended = true) : ∀ k, w.after k = w
  | 0 => rfl
  | k + 1 => by rw [Walk.after, Walk.next_of_ended h, Walk.after_of_ended h k]

/-! ## What a walk comes to -/

/-- What a walk from an offset over bytes comes to: the records that it shows, and the fault that it breaks off with. -/
inductive Walks : Nat → Bytes → List NameRecord → Option RecordFault → Prop
  | ended (offset : Nat) : Walks offset [] [] none
  | broken {offset : Nat} {buffer : Bytes} {fault : RecordFault} (hne : buffer ≠ [])
      (hread : readFirst offset buffer = .error fault) : Walks offset buffer [] (some fault)
  | record {offset : Nat} {r : NameRecord} {buffer rest : Bytes} {rs : List NameRecord} {fault : Option RecordFault}
      (ho : r.offset = offset) (hfronts : Fronts r buffer rest)
      (hrest : Walks (offset + length r.identity) rest rs fault) : Walks offset buffer (r :: rs) fault

/-- **All bytes are walked in some way.** -/
theorem exists_walks (offset : Nat) (buffer : Bytes) : ∃ rs fault, Walks offset buffer rs fault := by
  by_cases hne : buffer = []
  · subst hne
    exact ⟨[], none, .ended offset⟩
  cases hread : readFirst offset buffer with
  | error fault => exact ⟨[], some fault, .broken hne hread⟩
  | ok found =>
    obtain ⟨r, size⟩ := found
    obtain ⟨ho, rfl, hfronts⟩ := readFirst_eq_ok_iff.1 hread
    have hlen := hfronts.length_eq
    have hpos := length_pos r.identity
    obtain ⟨rs, fault, hrest⟩ := exists_walks (offset + length r.identity) (buffer.drop (length r.identity))
    exact ⟨r :: rs, fault, .record ho hfronts hrest⟩
termination_by buffer.length

def endOf (offset : Nat) (rs : List NameRecord) : Nat := offset + total (rs.map identity)

/-- The items of a walk: its records, and the error that it broke off with. -/
def items (offset : Nat) (rs : List NameRecord) (fault : Option RecordFault) : List Item :=
  rs.map .ok ++ fault.toList.map fun fault => .error (.record (endOf offset rs) fault)

theorem endOf_cons (offset : Nat) (r : NameRecord) (rs : List NameRecord) :
    endOf offset (r :: rs) = endOf (offset + length r.identity) rs := by
  rw [endOf, endOf, List.map_cons, total_cons, Nat.add_assoc]

theorem items_cons (offset : Nat) (r : NameRecord) (rs : List NameRecord) (fault : Option RecordFault) :
    items offset (r :: rs) fault = .ok r :: items (offset + length r.identity) rs fault := by
  rw [items, items, endOf_cons, List.map_cons, List.cons_append]

theorem collect_items (offset : Nat) (fault : Option RecordFault) : ∀ rs : List NameRecord,
    collect (items offset rs fault) = fault.elim (.ok rs) fun fault => .error (.record (endOf offset rs) fault)
  | [] => by cases fault <;> rfl
  | r :: rs => by
    have ih := collect_items (offset + length r.identity) fault rs
    rw [items_cons, collect, ih, endOf_cons]
    cases fault <;> rfl

section Walks

variable {offset : Nat} {buffer : Bytes} {rs : List NameRecord} {fault : Option RecordFault}

/-- **The calls of a walk show its items, one a call, and nothing after the last.** -/
theorem Walks.call (h : Walks offset buffer rs fault) :
    ∀ k, ((Walk.before offset buffer).after k).next.1 = (items offset rs fault)[k]? := by
  induction h with
  | ended offset =>
    intro k
    rw [Walk.after_of_ended rfl]
    rfl
  | broken hne hread =>
    have hnext := Walk.next_before_of_error hne hread
    rintro (_ | k)
    · rw [Walk.after, hnext]
      rfl
    · rw [Walk.after, hnext, Walk.after_of_ended rfl, Walk.next_of_ended rfl]
      rfl
  | record ho hfronts hrest ih =>
    subst ho
    rw [items_cons]
    rintro (_ | k)
    · rw [Walk.after, Walk.next_before_of_fronts hfronts]
      rfl
    · rw [Walk.after, Walk.next_before_of_fronts hfronts, List.getElem?_cons_succ]
      exact ih k

/-- A run that may take enough steps shows all items of the walk. -/
theorem Walks.run (h : Walks offset buffer rs fault) : ∀ fuel, (items offset rs fault).length ≤ fuel →
    (Walk.run fuel (Walk.before offset buffer)).1 = items offset rs fault := by
  induction h with
  | ended offset =>
    intro fuel _
    rw [run_before_nil]
    rfl
  | broken hne hread =>
    have hnext := Walk.next_before_of_error hne hread
    rintro (_ | fuel) hfuel
    · exact absurd hfuel (Nat.not_succ_le_zero 0)
    · rw [Walk.run, hnext]
      cases fuel <;> rfl
  | record ho hfronts hrest ih =>
    subst ho
    rw [items_cons]
    rintro (_ | fuel) hfuel
    · exact absurd hfuel (Nat.not_succ_le_zero _)
    · rw [run_succ_of_fronts hfronts, ih fuel (Nat.le_of_succ_le_succ hfuel)]

theorem Walks.length_le (h : Walks offset buffer rs fault) : recordHeader * rs.length ≤ buffer.length := by
  induction h with
  | ended offset => exact Nat.le_refl 0
  | broken hne hread => exact Nat.zero_le _
  | @record offset r buffer rest rs fault ho hfronts hrest ih =>
    have hlen := hfronts.length_eq
    have hhead := recordHeader_le_length r.identity
    rw [List.length_cons, Nat.mul_succ]
    omega

theorem Walks.offset_head (h : Walks offset buffer rs fault) {r : NameRecord} (hr : rs.head? = some r) :
    r.offset = offset := by
  cases h with
  | ended => cases hr
  | broken => cases hr
  | record ho hfronts hrest =>
    cases hr
    exact ho

theorem Walks.ne_nil (h : Walks offset buffer rs fault) (hshown : rs ≠ [] ∨ fault ≠ none) : buffer ≠ [] := by
  cases h with
  | ended => simp at hshown
  | broken hne hread => exact hne
  | @record _ r _ _ _ _ ho hfronts hrest =>
    have hlen := hfronts.length_eq
    have hpos := length_pos r.identity
    exact List.ne_nil_of_length_pos (by omega)

/-- **The bytes up to the fault are those of the records shown**, one after the other. -/
theorem Walks.take_eq (h : Walks offset buffer rs fault) :
    buffer.take (total (rs.map identity)) = rs.flatMap fun r => render r.next.toNat r.identity := by
  induction h with
  | ended offset => rfl
  | broken hne hread => rfl
  | @record offset r buffer rest rs fault ho hfronts hrest ih =>
    have hbytes := hfronts.bytes
    rw [List.map_cons, total_cons, List.flatMap_cons, ← ih, hbytes, ← length_render r.next.toNat r.identity,
      List.take_length_add_append]

/-- What stands behind the records shown is no record, and this is the fault. -/
theorem Walks.readFirst_eq (h : Walks offset buffer rs fault) : ∀ f, fault = some f →
    readFirst (endOf offset rs) (buffer.drop (total (rs.map identity))) = .error f := by
  induction h with
  | ended offset =>
    intro f hf
    cases hf
  | broken hne hread =>
    intro f hf
    cases hf
    exact hread
  | @record offset r buffer rest rs fault ho hfronts hrest ih =>
    intro f hf
    have hrestAt := ih f hf
    rw [endOf_cons, List.map_cons, total_cons, ← List.drop_drop, hfronts.drop_eq]
    exact hrestAt

/-- **A record that is not all that is left says how long it is**, and before a fault none is. -/
theorem Walks.next_eq (h : Walks offset buffer rs fault) (hfault : fault ≠ none) :
    ∀ r ∈ rs, r.next.toNat = length r.identity := by
  induction h with
  | ended offset => exact absurd rfl hfault
  | broken hne hread =>
    intro r hr
    cases hr
  | @record offset r buffer rest rs fault ho hfronts hrest ih =>
    intro r' hr'
    rcases List.mem_cons.1 hr' with rfl | hmem
    · exact hfronts.next_eq_length (hrest.ne_nil (.inr hfault))
    · exact ih hfault r' hmem

/-- **A record leads to the next one.** -/
theorem Walks.chained (h : Walks offset buffer rs fault) :
    ∀ k r r', rs[k]? = some r → rs[k + 1]? = some r' → r'.offset = r.offset + r.next.toNat := by
  induction h with
  | ended offset =>
    intro k r r' hr
    cases hr
  | broken hne hread =>
    intro k r r' hr
    cases hr
  | @record offset r buffer rest rs fault ho hfronts hrest ih =>
    rintro (_ | k) r₁ r₂ h₁ h₂
    · cases h₁
      have hhead : rs[0]? = some r₂ := h₂
      have hne : rs ≠ [] := by
        rintro rfl
        cases hhead
      rw [hrest.offset_head (List.head?_eq_getElem?.trans hhead), ho, hfronts.next_eq_length (hrest.ne_nil (.inl hne))]
    · exact ih k r₁ r₂ h₁ h₂

theorem Walks.length_items_le (h : Walks offset buffer rs fault) :
    (items offset rs fault).length ≤ buffer.length / recordHeader + 1 := by
  have hrs : rs.length ≤ buffer.length / recordHeader :=
    (Nat.le_div_iff_mul_le (by decide)).2 (Nat.mul_comm recordHeader _ ▸ h.length_le)
  have hone : fault.toList.length ≤ 1 := by cases fault <;> simp
  rw [items, List.length_append, List.length_map, List.length_map]
  omega

end Walks

/-! ## Whole walks -/

theorem walk_of_walks {data : Bytes} {rs : List NameRecord} {fault : Option RecordFault} (h : Walks 0 data rs fault) :
    (walk data).1 = items 0 rs fault :=
  h.run _ (Nat.le_trans h.length_items_le (Nat.succ_le_succ (Nat.div_le_self _ _)))

theorem decode_of_walks {data : Bytes} {rs : List NameRecord} {fault : Option RecordFault} (h : Walks 0 data rs fault) :
    decode data = fault.elim (.ok rs) fun fault => .error (.record (endOf 0 rs) fault) := by
  rw [decode, walk_of_walks h, collect_items]

/-- **A walk over any bytes is safe and exact.**  Before every call it stands within the buffer, and a call that reads
asks for no byte outside it.  The calls show some records, then at most one error, and then nothing for ever: at most one
item for every twenty bytes, and one more.  The first record stands at the start, and every other one where the one
before it leads.  An error is about the place behind the records shown: no record stands there, each of the records
before it says how long it is, and they are all of the bytes before it.  Decoding gives the records, or that error. -/
theorem walk_exact (data : Bytes) :
    (∀ k, ((Walk.ofBuffer data).after k).Within data ∧
      readAt? data ((Walk.ofBuffer data).after k).offset =
        some (readFirst ((Walk.ofBuffer data).after k).offset ((Walk.ofBuffer data).after k).left)) ∧
    ∃ (rs : List NameRecord) (fault : Option RecordFault),
      (walk data).1 = items 0 rs fault ∧ (items 0 rs fault).length ≤ data.length / 20 + 1 ∧
      (∀ k, ((Walk.ofBuffer data).after k).next.1 = (items 0 rs fault)[k]?) ∧
      (∀ r, rs[0]? = some r → r.offset = 0) ∧
      (∀ k r r', rs[k]? = some r → rs[k + 1]? = some r' → r'.offset = r.offset + r.next.toNat) ∧
      (∀ f, fault = some f →
        endOf 0 rs = (rs.map fun r => length r.identity).sum ∧
        readFirst (endOf 0 rs) (data.drop (endOf 0 rs)) = .error f ∧
        (∀ r ∈ rs, r.next.toNat = length r.identity) ∧
        data.take (endOf 0 rs) = rs.flatMap fun r =>
          Bytes.littleEndian 4 (length r.identity) ++ r.guid.toBytes ++ Utf16.toBytes (Utf16.encode r.name)) ∧
      decode data = fault.elim (.ok rs) fun f => .error (.record (endOf 0 rs) f) := by
  refine ⟨fun k => ?_, ?_⟩
  · have hwithin := (Walk.within_ofBuffer data).after k
    exact ⟨hwithin, by rw [readAt?_eq hwithin.offset_le, hwithin.left_eq]⟩
  · obtain ⟨rs, fault, h⟩ := exists_walks 0 data
    have hend : endOf 0 rs = total (rs.map identity) := Nat.zero_add _
    refine ⟨rs, fault, walk_of_walks h, h.length_items_le, h.call, ?_, h.chained, ?_, decode_of_walks h⟩
    · exact fun r hr => h.offset_head (List.head?_eq_getElem?.trans hr)
    · intro f hf
      have hnext := h.next_eq (hf ▸ Option.some_ne_none f)
      refine ⟨by rw [hend, total, List.map_map]; rfl, hend ▸ h.readFirst_eq f hf, hnext, ?_⟩
      rw [hend, h.take_eq]
      refine List.flatMap_congr fun r hr => ?_
      rw [hnext r hr, render]
      rfl

theorem items_eq_pair {offset p : Nat} {rs : List NameRecord} {fault : Option RecordFault} {r : NameRecord}
    {f : RecordFault} (h : items offset rs fault = [.ok r, .error (.record p f)]) : rs = [r] ∧ fault = some f := by
  match rs, fault with
  | [], none => cases h
  | [], some _ => cases h
  | r' :: rs, fault =>
    rw [items_cons] at h
    obtain ⟨hr, hrest⟩ := List.cons.inj h
    match rs, fault with
    | [], none => cases hrest
    | [], some _ =>
      cases hr
      cases hrest
      exact ⟨rfl, rfl⟩
    | _ :: _, _ => cases hrest

/-- Three stray bytes behind a record of twenty-two. -/
theorem walk_exact_stray :
    (walk (render 22 ⟨['A'], default⟩ ++ [1, 2, 3])).1 =
      [.ok ⟨0, 22, default, ['A']⟩, .error (.record 22 (.shortHeader 3))] ∧
    readFirst 22 [1, 2, 3] = .error (.shortHeader 3) ∧
    (22 : UInt32).toNat = length ⟨['A'], default⟩ ∧
    decode (render 22 ⟨['A'], default⟩ ++ [1, 2, 3]) = .error (.record 22 (.shortHeader 3)) := by
  have hwalk : (walk (render 22 ⟨['A'], default⟩ ++ [1, 2, 3])).1 =
      [.ok ⟨0, 22, default, ['A']⟩, .error (.record 22 (.shortHeader 3))] := rfl
  obtain ⟨-, rs, fault, hitems, -, -, -, -, hfault, hdecode⟩ :=
    walk_exact (render 22 ⟨['A'], default⟩ ++ [1, 2, 3])
  obtain ⟨rfl, rfl⟩ := items_eq_pair (hitems.symm.trans hwalk)
  obtain ⟨-, hread, hnext, -⟩ := hfault _ rfl
  exact ⟨hwalk, hread, hnext _ List.mem_cons_self, hdecode⟩

end NameRecord
end FirmwareVars
