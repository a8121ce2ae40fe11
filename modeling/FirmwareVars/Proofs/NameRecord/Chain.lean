import FirmwareVars.Proofs.NameRecord.Step
/-!
# Chains of records

`assemble` is the buffer of identities without the limit on lengths, and `chain` is what stands in it: each identity
with its place and its distance.  `pack` succeeds exactly within the limit, and then gives `assemble`
(`pack_eq_ok_iff`).

A walk over an assembled buffer shows its chain and ends (`run_assemble`); a walk that shows no error went over an
assembled buffer, and showed its chain (`assembled_of_run`).  Both are inductions along the walk, one record a step.
-/
namespace FirmwareVars
namespace NameRecord

/-- The buffer of identities, whatever their lengths. -/
def assemble : List Identity → Bytes
  | [] => []
  | [i] => render 0 i
  | i :: rest => render (length i) i ++ assemble rest

/-- The record of an identity at a place. -/
def place (offset : Nat) (next : UInt32) (i : Identity) : NameRecord := ⟨offset, next, i.guid, i.name⟩

@[simp] theorem offset_place (offset : Nat) (next : UInt32) (i : Identity) : (place offset next i).offset = offset :=
  rfl

@[simp] theorem identity_place (offset : Nat) (next : UInt32) (i : Identity) : (place offset next i).identity = i := rfl

/-- The records of identities, from an offset on. -/
def chain : Nat → List Identity → List NameRecord
  | _, [] => []
  | offset, [i] => [place offset 0 i]
  | offset, i :: rest => place offset (UInt32.ofNat (length i)) i :: chain (offset + length i) rest

/-- The bytes that the records of identities take. -/
def total (ids : List Identity) : Nat := (ids.map length).sum

/-- Every record but the last is short enough for its offset field. -/
def Chainable (ids : List Identity) : Prop := ∀ i ∈ ids.dropLast, length i < UInt32.size

@[simp] theorem total_cons (i : Identity) (ids : List Identity) : total (i :: ids) = length i + total ids := by
  rw [total, List.map_cons, List.sum_cons, total]

theorem chainable_cons_cons {i j : Identity} {ids : List Identity} :
    Chainable (i :: j :: ids) ↔ length i < UInt32.size ∧ Chainable (j :: ids) := by
  rw [Chainable, List.dropLast_cons_cons]
  exact List.forall_mem_cons

theorem chainable_nil : Chainable [] := by
  intro i h
  cases h

theorem chainable_singleton (i : Identity) : Chainable [i] := by
  intro j h
  cases h

theorem assemble_cons_cons (i j : Identity) (ids : List Identity) :
    assemble (i :: j :: ids) = render (length i) i ++ assemble (j :: ids) := rfl

theorem chain_cons_cons (offset : Nat) (i j : Identity) (ids : List Identity) :
    chain offset (i :: j :: ids) = place offset (UInt32.ofNat (length i)) i :: chain (offset + length i) (j :: ids) :=
  rfl

theorem toNat_ofNat_length {i : Identity} (h : length i < UInt32.size) :
    (UInt32.ofNat (length i)).toNat = length i := by
  rw [UInt32.toNat_ofNat']
  exact Nat.mod_eq_of_lt h

theorem length_le_total : ∀ ids : List Identity, ids.length ≤ total ids
  | [] => Nat.le_refl 0
  | i :: ids => by
    have ih := length_le_total ids
    have hi := length_pos i
    rw [total_cons, List.length_cons]
    omega

/-! ## Packing -/

theorem pack_cons_cons (i j : Identity) (ids : List Identity) :
    pack (i :: j :: ids) =
      if length i < UInt32.size then
        match pack (j :: ids) with
        | .ok tail => .ok (render (length i) i ++ tail)
        | .error e => .error e
      else .error (.identity (.longRecord i.name (length i))) := rfl

/-- **Identities are packed exactly when their records can be chained**, and then into the assembled buffer. -/
theorem pack_eq_ok_iff : ∀ {ids : List Identity} {buffer : Bytes},
    pack ids = .ok buffer ↔ Chainable ids ∧ buffer = assemble ids
  | [], buffer => by
    constructor
    · intro h
      cases h
      exact ⟨chainable_nil, rfl⟩
    · rintro ⟨-, rfl⟩
      rfl
  | [i], buffer => by
    constructor
    · intro h
      cases h
      exact ⟨chainable_singleton i, rfl⟩
    · rintro ⟨-, rfl⟩
      rfl
  | i :: j :: ids, buffer => by
    rw [chainable_cons_cons, pack_cons_cons]
    by_cases hi : length i < UInt32.size
    · rw [if_pos hi]
      cases ht : pack (j :: ids) with
      | error e =>
        constructor
        · intro h
          cases h
        · rintro ⟨⟨-, hc⟩, -⟩
          rw [pack_eq_ok_iff.2 ⟨hc, rfl⟩] at ht
          cases ht
      | ok tail =>
        obtain ⟨hc, rfl⟩ := pack_eq_ok_iff.1 ht
        constructor
        · intro h
          cases h
          exact ⟨⟨hi, hc⟩, rfl⟩
        · rintro ⟨-, rfl⟩
          rfl
    · rw [if_neg hi]
      constructor
      · intro h
        cases h
      · rintro ⟨⟨hlt, -⟩, -⟩
        exact absurd hlt hi

/-- **Packing fails on a record that is not the last and too long**, and says which. -/
theorem long_of_pack_eq_error : ∀ {ids : List Identity} {e : NamingError}, pack ids = .error e →
    ∃ i ∈ ids.dropLast, ¬ length i < UInt32.size ∧ e = .identity (.longRecord i.name (length i))
  | [], _, h => by cases h
  | [_], _, h => by cases h
  | i :: j :: ids, e, h => by
    rw [pack_cons_cons] at h
    rw [List.dropLast_cons_cons]
    by_cases hi : length i < UInt32.size
    · rw [if_pos hi] at h
      cases ht : pack (j :: ids) with
      | ok tail => rw [ht] at h; cases h
      | error e' =>
        rw [ht] at h
        cases h
        obtain ⟨k, hk, hlong⟩ := long_of_pack_eq_error ht
        exact ⟨k, List.mem_cons_of_mem _ hk, hlong⟩
    · rw [if_neg hi] at h
      cases h
      exact ⟨i, List.mem_cons_self, hi, rfl⟩

theorem length_assemble : ∀ ids : List Identity, (assemble ids).length = total ids
  | [] => rfl
  | [i] => by rw [assemble, length_render, total_cons]; rfl
  | i :: j :: ids => by
    rw [assemble_cons_cons, List.length_append, length_render, length_assemble (j :: ids), total_cons i]

theorem assemble_ne_nil (i : Identity) (ids : List Identity) : assemble (i :: ids) ≠ [] := by
  intro h
  have := length_assemble (i :: ids)
  have := length_pos i
  rw [h, total_cons, List.length_nil] at *
  omega

/-! ## Walking -/

/-- A chain of more than one record begins with one that says how long it is. -/
theorem fronts_assemble_cons (offset : Nat) {i : Identity} (j : Identity) (ids : List Identity)
    (h : length i < UInt32.size) :
    Fronts (place offset (UInt32.ofNat (length i)) i) (assemble (i :: j :: ids)) (assemble (j :: ids)) := by
  refine ⟨?_, .inr ⟨toNat_ofNat_length h, assemble_ne_nil j ids⟩⟩
  change _ = render (UInt32.ofNat (length i)).toNat i ++ _
  rw [toNat_ofNat_length h, assemble_cons_cons]

/-- The last record of a chain fronts all that is left. -/
theorem fronts_assemble_singleton (offset : Nat) (i : Identity) : Fronts (place offset 0 i) (assemble [i]) [] :=
  ⟨(List.append_nil _).symm, .inl ⟨rfl, rfl⟩⟩

theorem run_before_nil : ∀ (fuel offset : Nat), Walk.run fuel (Walk.before offset []) = ([], Walk.before offset [])
  | 0, _ => rfl
  | _ + 1, _ => rfl

/-- A run from before a record shows it, and goes on behind it. -/
theorem run_succ_of_fronts {r : NameRecord} {buffer rest : Bytes} (h : Fronts r buffer rest) (fuel : Nat) :
    Walk.run (fuel + 1) (Walk.before r.offset buffer) =
      (.ok r :: (Walk.run fuel (Walk.before (r.offset + length r.identity) rest)).1,
        (Walk.run fuel (Walk.before (r.offset + length r.identity) rest)).2) := by
  rw [Walk.run, Walk.next_before_of_fronts h]

/-- **A walk over an assembled buffer shows its chain**, and then stands at the end of it. -/
theorem run_assemble : ∀ (ids : List Identity) (offset fuel : Nat), ids.length ≤ fuel → Chainable ids →
    Walk.run fuel (Walk.before offset (assemble ids)) =
      ((chain offset ids).map .ok, Walk.before (offset + total ids) [])
  | [], offset, fuel, _, _ => run_before_nil fuel offset
  | [i], offset, fuel + 1, _, _ => by
    have hstep := run_succ_of_fronts (fronts_assemble_singleton offset i) fuel
    rw [offset_place, identity_place, run_before_nil] at hstep
    exact hstep
  | i :: j :: ids, offset, fuel + 1, hf, hc => by
    rw [chainable_cons_cons] at hc
    have ih := run_assemble (j :: ids) (offset + length i) fuel (by simpa using hf) hc.2
    have hstep := run_succ_of_fronts (fronts_assemble_cons offset j ids hc.1) fuel
    rw [offset_place, identity_place, ih] at hstep
    rw [total_cons i, ← Nat.add_assoc]
    exact hstep

/-- **A walk that shows no error went over an assembled buffer**, and showed the chain of it. -/
theorem assembled_of_run : ∀ (fuel offset : Nat) (buffer : Bytes) (rs : List NameRecord), buffer.length < fuel →
    (Walk.run fuel (Walk.before offset buffer)).1 = rs.map .ok →
      Chainable (rs.map identity) ∧ buffer = assemble (rs.map identity) ∧ rs = chain offset (rs.map identity)
  | 0, _, _, _, hf, _ => absurd hf (Nat.not_lt_zero _)
  | fuel + 1, offset, [], rs, _, h => by
    rw [run_before_nil] at h
    obtain rfl := List.map_eq_nil_iff.1 h.symm
    exact ⟨chainable_nil, rfl, rfl⟩
  | fuel + 1, offset, b :: bs, rs, hf, h => by
    rcases Walk.next_before offset (List.cons_ne_nil b bs) with ⟨r, rest, rfl, hr⟩ | ⟨fault, hnext⟩
    · rw [run_succ_of_fronts hr] at h
      cases rs with
      | nil => cases h
      | cons r' rs =>
        obtain ⟨hhead, htail⟩ := List.cons.inj h
        cases hhead
        have hlen := hr.length_eq
        have hpos := length_pos r.identity
        obtain ⟨hc, hb, hrs⟩ := assembled_of_run fuel _ rest rs (by omega) htail
        rcases hr.chained with ⟨hn, hnil⟩ | ⟨hn, hne⟩
        · -- the last record: nothing is left to show
          rw [hnil] at hb
          cases rs with
          | cons r' rs => exact absurd hb.symm (assemble_ne_nil _ _)
          | nil =>
            refine ⟨chainable_singleton _, ?_, ?_⟩
            · rw [hr.bytes, hnil, hn, List.append_nil]
              rfl
            · obtain ⟨o, n, g, t⟩ := r
              cases hn
              rfl
        · cases rs with
          | nil => exact absurd hb hne
          | cons r' rs =>
            have hsize : length r.identity < UInt32.size := hn ▸ r.next.toNat_lt
            have hfield : UInt32.ofNat (length r.identity) = r.next := by rw [← hn, UInt32.ofNat_toNat]
            refine ⟨chainable_cons_cons.2 ⟨hsize, hc⟩, ?_, ?_⟩
            · rw [hr.bytes, hn, hb]
              rfl
            · rw [List.map_cons, List.map_cons, chain_cons_cons, ← List.map_cons, ← hrs, hfield]
              rfl
    · rw [Walk.run, hnext] at h
      cases rs with
      | nil => cases h
      | cons r' rs => cases h

/-! ## Collecting -/

theorem collect_map_ok : ∀ rs : List NameRecord, collect (rs.map .ok) = .ok rs
  | [] => rfl
  | r :: rs => by rw [List.map_cons, collect, collect_map_ok rs]

theorem collect_eq_ok_iff : ∀ {items : List Item} {rs : List NameRecord},
    collect items = .ok rs ↔ items = rs.map .ok
  | [], rs => by
    constructor
    · intro h
      cases h
      rfl
    · intro h
      obtain rfl := List.map_eq_nil_iff.1 h.symm
      rfl
  | .error e :: items, rs => by
    constructor
    · intro h
      cases h
    · intro h
      cases rs <;> cases h
  | .ok r :: items, rs => by
    constructor
    · intro h
      rw [collect] at h
      cases hi : collect items with
      | error e => rw [hi] at h; cases h
      | ok rs' =>
        rw [hi] at h
        cases h
        rw [List.map_cons, ← collect_eq_ok_iff.1 hi]
    · intro h
      rw [h, collect_map_ok]

/-! ## A whole walk -/

/-- **A walk over a packed buffer shows its chain**, and then it is over. -/
theorem walk_of_pack {ids : List Identity} {buffer : Bytes} (h : pack ids = .ok buffer) :
    walk buffer = ((chain 0 ids).map .ok, Walk.before buffer.length []) := by
  obtain ⟨hc, hb⟩ := pack_eq_ok_iff.1 h
  have hlen := length_le_total ids
  have htotal : buffer.length = total ids := by rw [hb, length_assemble]
  have hrun := run_assemble ids 0 (buffer.length + 1) (by omega) hc
  rw [← hb, Nat.zero_add, ← htotal] at hrun
  exact hrun

/-- **A walk that shows no error went over a packed buffer.** -/
theorem pack_of_walk_eq {buffer : Bytes} {rs : List NameRecord} (h : (walk buffer).1 = rs.map .ok) :
    pack (rs.map identity) = .ok buffer ∧ rs = chain 0 (rs.map identity) := by
  rw [walk, Walk.ofBuffer_eq] at h
  obtain ⟨hc, hb, hrs⟩ := assembled_of_run _ 0 buffer rs (Nat.lt_succ_self _) h
  exact ⟨pack_eq_ok_iff.2 ⟨hc, hb⟩, hrs⟩

end NameRecord
end FirmwareVars
