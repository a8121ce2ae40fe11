import FirmwareVars.Proofs.NameRecord.RoundTrip
import FirmwareVars.Proofs.NameRecord.Walks
/-!
# Cut buffers

What becomes of a packed buffer that is cut short.  The records before the cut are walked as before (`walks_linked`).
A cut within a record, or right behind one that is not the last, leaves bytes that begin with no record
(`readFirst_cut`); only the name of the last record may be cut, between two characters, and what is left then is itself
packed (`assemble_cut`).  So a cut is noticed everywhere else, at the record that it falls in (`decode_cut`).
-/
namespace FirmwareVars
namespace NameRecord

/-! ## Records before others -/

/-- The bytes of records that others follow. -/
def leading (ids : List Identity) : Bytes := ids.flatMap fun i => render (length i) i

/-- Records that others follow. -/
def linked : Nat → List Identity → List NameRecord
  | _, [] => []
  | offset, i :: ids => place offset (UInt32.ofNat (length i)) i :: linked (offset + length i) ids

theorem leading_cons (i : Identity) (ids : List Identity) :
    leading (i :: ids) = render (length i) i ++ leading ids := List.flatMap_cons

theorem linked_cons (offset : Nat) (i : Identity) (ids : List Identity) :
    linked offset (i :: ids) = place offset (UInt32.ofNat (length i)) i :: linked (offset + length i) ids := rfl

theorem length_leading : ∀ ids : List Identity, (leading ids).length = total ids
  | [] => rfl
  | i :: ids => by rw [leading_cons, List.length_append, length_render, length_leading ids, total_cons]

theorem total_append (front back : List Identity) : total (front ++ back) = total front + total back := by
  rw [total, List.map_append, List.sum_append, total, total]

theorem map_identity_linked : ∀ (offset : Nat) (ids : List Identity), (linked offset ids).map identity = ids
  | _, [] => rfl
  | offset, i :: ids => by
    rw [linked_cons, List.map_cons, map_identity_linked (offset + length i) ids, identity_place]

theorem assemble_append (i : Identity) (after : List Identity) : ∀ front : List Identity,
    assemble (front ++ i :: after) = leading front ++ assemble (i :: after)
  | [] => rfl
  | [j] => (congrArg (· ++ _) (List.append_nil (render (length j) j))).symm
  | j :: k :: front => by
    have ih := assemble_append i after (k :: front)
    rw [List.cons_append, List.cons_append, assemble_cons_cons, ← List.cons_append, ih, leading_cons j,
      List.append_assoc]

theorem chain_append (i : Identity) (after : List Identity) : ∀ (offset : Nat) (front : List Identity),
    chain offset (front ++ i :: after) = linked offset front ++ chain (offset + total front) (i :: after)
  | _, [] => rfl
  | _, [_] => rfl
  | offset, j :: k :: front => by
    have ih := chain_append i after (offset + length j) (k :: front)
    rw [List.cons_append, List.cons_append, chain_cons_cons, ← List.cons_append, ih, linked_cons offset j, total_cons j,
      ← Nat.add_assoc, List.cons_append]

theorem chainable_append {front : List Identity} {i : Identity} {after : List Identity} :
    Chainable (front ++ i :: after) ↔ (∀ j ∈ front, length j < UInt32.size) ∧ Chainable (i :: after) := by
  rw [Chainable, List.dropLast_append_of_ne_nil (List.cons_ne_nil i after), List.forall_mem_append]
  rfl

/-- **Records that something follows are walked over**, and the walk goes on behind them. -/
theorem walks_linked {left : Bytes} {rs : List NameRecord} {fault : Option RecordFault} (hne : left ≠ []) :
    ∀ {front : List Identity} {offset : Nat}, (∀ i ∈ front, length i < UInt32.size) →
      Walks (offset + total front) left rs fault →
      Walks offset (leading front ++ left) (linked offset front ++ rs) fault
  | [], _, _, h => h
  | i :: front, offset, hfront, h => by
    have hi : (UInt32.ofNat (length i)).toNat = length i := toNat_ofNat_length (hfront i List.mem_cons_self)
    rw [total_cons, ← Nat.add_assoc] at h
    have hrest := walks_linked hne (fun j hj => hfront j (List.mem_cons_of_mem _ hj)) h
    have hbytes : leading (i :: front) ++ left =
        render (UInt32.ofNat (length i)).toNat i ++ (leading front ++ left) := by
      rw [hi, leading_cons, List.append_assoc]
    exact .record rfl ⟨hbytes, .inr ⟨hi, List.append_ne_nil_of_right_ne_nil _ hne⟩⟩ hrest

/-! ## The first record of what is left -/

/-- A record cut behind its header is the header and the first bytes of the name. -/
theorem take_render_append {k : Nat} (hk : recordHeader ≤ k) (distance : Nat) (i : Identity) (rest : Bytes) :
    (render distance i ++ rest).take k = Bytes.littleEndian 4 distance ++ i.guid.toBytes ++
      (Utf16.toBytes (Utf16.encode i.name) ++ rest).take (k - recordHeader) := by
  have hsplit : k = (Bytes.littleEndian 4 distance ++ i.guid.toBytes).length + (k - recordHeader) := by
    rw [length_header]
    omega
  rw [render, List.append_assoc, hsplit, List.take_length_add_append, ← hsplit]

/-- **A record that others follow is missed when it is cut, and also when they are all cut off.** -/
theorem readFirst_cut {i : Identity} (hi : length i < UInt32.size) (rest : Bytes) (offset : Nat) {k : Nat}
    (hk : k ≤ length i) : ∃ fault, readFirst offset ((render (length i) i ++ rest).take k) = .error fault := by
  have hlen : ((render (length i) i ++ rest).take k).length = k := by
    rw [List.length_take, List.length_append, length_render]
    omega
  by_cases hhead : recordHeader ≤ k
  · have hcut := take_render_append hhead (length i) i rest
    rw [hcut, List.length_append, List.length_append, Bytes.length_littleEndian, Guid.length_toBytes] at hlen
    have hleft : recordHeader + ((Utf16.toBytes (Utf16.encode i.name) ++ rest).take (k - recordHeader)).length = k := hlen
    have hspan : ∃ fault, span (length i) k = .error fault := by
      have hlong := recordHeader_le_length i
      have hpos := length_pos i
      unfold span
      rw [if_neg (Nat.ne_of_gt hpos), if_neg (Nat.not_lt.2 hlong), if_neg (Nat.not_lt.2 hk)]
      split <;> exact ⟨_, rfl⟩
    obtain ⟨fault, hspan⟩ := hspan
    exact ⟨fault, by rw [hcut, readFirst_header offset hi, hleft, hspan]⟩
  · exact ⟨.shortHeader k, by rw [readFirst, hlen, if_pos (Nat.not_le.1 hhead)]⟩

/-- What is read of the last record when its name is cut is what is read of the rest of the name. -/
theorem readFirst_cut_last (i : Identity) (offset : Nat) {k : Nat} (hhead : recordHeader ≤ k) (hk : k ≤ length i)
    {fault : RecordFault}
    (hname : readName ((Utf16.toBytes (Utf16.encode i.name)).take (k - recordHeader)) = .error fault) :
    readFirst offset ((render 0 i).take k) = .error fault := by
  have hcut := take_render_append hhead 0 i []
  rw [List.append_nil, List.append_nil] at hcut
  have hspan (left : Nat) : span 0 left = .ok left := if_pos rfl
  have hlen : ((Utf16.toBytes (Utf16.encode i.name)).take (k - recordHeader)).length = k - recordHeader := by
    rw [List.length_take, Utf16.length_toBytes]
    rw [length] at hk
    omega
  rw [hcut, readFirst_header offset (by decide), hspan]
  simp only [hlen, Nat.add_sub_cancel_left, List.take_take, Nat.min_self, hname]

/-- The first bytes of a name are no name when they end within a unit or within a pair. -/
theorem readName_cut {name : Text} {m : Nat} (hm : m ≤ 2 * (Utf16.encode name).length)
    (h : ¬ (m % 2 = 0 ∧ ¬ Utf16.SplitsPair (Utf16.encode name) (m / 2))) :
    ∃ fault, readName ((Utf16.toBytes (Utf16.encode name)).take m) = .error fault := by
  by_cases heven : m % 2 = 0
  · have hpair : Utf16.SplitsPair (Utf16.encode name) (m / 2) := by
      by_contra hno
      exact h ⟨heven, hno⟩
    have htake := Utf16.take_toBytes (Utf16.encode name) (m / 2)
    rw [show 2 * (m / 2) = m by omega] at htake
    refine ⟨.brokenPair, ?_⟩
    simp only [readName, htake, Utf16.unitsOf?_toBytes, Utf16.decode?_take_of_splitsPair hpair]
  · have hlen : ((Utf16.toBytes (Utf16.encode name)).take m).length = m := by
      rw [List.length_take, Utf16.length_toBytes]
      omega
    have hodd : ((Utf16.toBytes (Utf16.encode name)).take m).length % 2 = 1 := by omega
    refine ⟨.splitUnit, ?_⟩
    simp only [readName, Utf16.unitsOf?_of_odd hodd]

/-! ## Decoding a cut buffer -/

/-- **A record that cannot be read is where decoding stops**, whatever stands before it. -/
theorem decode_cut_of_error {front : List Identity} {i : Identity} {after : List Identity}
    (hc : Chainable (front ++ i :: after)) {k : Nat} (hk : 0 < k) {fault : RecordFault}
    (hread : readFirst (total front) ((assemble (i :: after)).take k) = .error fault) :
    decode ((assemble (front ++ i :: after)).take (total front + k)) = .error (.record (total front) fault) := by
  have hne : (assemble (i :: after)).take k ≠ [] := by
    rw [Ne, List.take_eq_nil_iff, not_or]
    exact ⟨Nat.ne_of_gt hk, assemble_ne_nil i after⟩
  have hbroken : Walks (0 + total front) ((assemble (i :: after)).take k) [] (some fault) :=
    .broken hne ((Nat.zero_add (total front)).symm ▸ hread)
  have hwalks := walks_linked hne (chainable_append.1 hc).1 hbroken
  have hend : endOf 0 (linked 0 front ++ []) = total front := by
    rw [List.append_nil, endOf, map_identity_linked, Nat.zero_add]
  rw [assemble_append, ← length_leading front, List.take_length_add_append, decode_of_walks hwalks, hend]
  rw [length_leading]
  rfl

/-- **A buffer cut between two characters of the last name is the one of the shorter name.** -/
theorem assemble_cut (front : List Identity) (last : Identity) {name : Text} {j : Nat}
    (hname : Utf16.encode name = (Utf16.encode last.name).take j) :
    (assemble (front ++ [last])).take (total front + (recordHeader + 2 * j)) = assemble (front ++ [⟨name, last.guid⟩]) := by
  have hcut := take_render_append (Nat.le_add_right recordHeader (2 * j)) 0 last []
  rw [List.append_nil, List.append_nil, Nat.add_sub_cancel_left, Utf16.take_toBytes, ← hname] at hcut
  rw [assemble_append, assemble_append, ← length_leading front, List.take_length_add_append]
  exact congrArg (leading front ++ ·) hcut

theorem exists_record_at : ∀ {ids : List Identity} {b : Nat}, b < total ids →
    ∃ before i after, ids = before ++ i :: after ∧ total before ≤ b ∧ b < total before + length i
  | [], _, h => absurd h (Nat.not_lt_zero _)
  | i :: ids, b, h => by
    by_cases hi : b < length i
    · exact ⟨[], i, ids, rfl, Nat.zero_le b, (Nat.zero_add (length i)).symm ▸ hi⟩
    · rw [total_cons] at h
      have hrest : b - length i < total ids := by omega
      obtain ⟨before, j, after, rfl, hle, hlt⟩ := exists_record_at hrest
      refine ⟨i :: before, j, after, rfl, ?_, ?_⟩
      · rw [total_cons]
        omega
      · rw [total_cons]
        omega

/-- The cut is behind the header of the last record, and neither within a unit nor within a pair of its name. -/
def BetweenCharacters (front : List Identity) (last : Identity) (n : Nat) : Prop :=
  total front + recordHeader ≤ n ∧ (n - total front - recordHeader) % 2 = 0 ∧
    ¬ Utf16.SplitsPair (Utf16.encode last.name) ((n - total front - recordHeader) / 2)

/-- **A cut that is not between two characters of the last name is noticed**, at the record that it falls in. -/
theorem decode_take_error {front : List Identity} {last : Identity} (hc : Chainable (front ++ [last])) {n : Nat}
    (hn : n < total (front ++ [last])) (hpos : n ≠ 0) (hcut : ¬ BetweenCharacters front last n) :
    ∃ before i after fault, front ++ [last] = before ++ i :: after ∧ total before ≤ n - 1 ∧
      n - 1 < total before + length i ∧
      decode ((assemble (front ++ [last])).take n) = .error (.record (total before) fault) := by
  have hbyte : n - 1 < total (front ++ [last]) := by omega
  obtain ⟨before, i, after, hids, hle, hlt⟩ := exists_record_at hbyte
  obtain ⟨k, rfl⟩ : ∃ k, n = total before + k := ⟨n - total before, by omega⟩
  suffices hread : ∃ fault, readFirst (total before) ((assemble (i :: after)).take k) = .error fault by
    obtain ⟨fault, hread⟩ := hread
    refine ⟨before, i, after, fault, hids, hle, hlt, ?_⟩
    rw [hids] at hc ⊢
    exact decode_cut_of_error hc (by omega) hread
  have hchain := (chainable_append.1 (hids ▸ hc)).2
  cases after with
  | cons j after => exact readFirst_cut (chainable_cons_cons.1 hchain).1 _ _ (by omega)
  | nil =>
    obtain ⟨rfl, hlast⟩ := List.append_inj' hids rfl
    obtain rfl := List.singleton_inj.1 hlast
    by_cases hhead : recordHeader ≤ k
    · rw [BetweenCharacters, Nat.add_sub_cancel_left, not_and] at hcut
      have hunits : k - recordHeader ≤ 2 * (Utf16.encode last.name).length := by
        rw [length] at hlt
        omega
      obtain ⟨fault, hname⟩ := readName_cut hunits (hcut (by omega))
      exact ⟨fault, readFirst_cut_last last _ hhead (by omega) hname⟩
    · have hlen : ((assemble [last]).take k).length = k := by
        rw [List.length_take, assemble, length_render]
        omega
      exact ⟨.shortHeader k, by rw [readFirst, hlen, if_pos (Nat.not_le.1 hhead)]⟩

theorem exists_name_of_between {front : List Identity} {last : Identity} {n : Nat}
    (hcut : BetweenCharacters front last n) (hn : n < total (front ++ [last])) :
    ∃ name, name <+: last.name ∧ 2 * (Utf16.encode name).length = n - total front - recordHeader ∧
      (assemble (front ++ [last])).take n = assemble (front ++ [⟨name, last.guid⟩]) := by
  obtain ⟨hhead, heven, hpair⟩ := hcut
  obtain ⟨name, hpre, hname⟩ := Utf16.exists_isPrefix_of_take last.name _ hpair
  have htotal : total (front ++ [last]) = total front + (recordHeader + 2 * (Utf16.encode last.name).length) :=
    total_append front [last]
  have hplace : n = total front + (recordHeader + 2 * ((n - total front - recordHeader) / 2)) := by omega
  refine ⟨name, hpre, ?_, ?_⟩
  · rw [hname, List.length_take]
    omega
  · have hassemble := assemble_cut front last hname
    rwa [← hplace] at hassemble

/-- **A cut is noticed except within the last name.**  The first `n` bytes of a packed buffer are decoded only when there
are none, or when the cut is behind the header of the last record and between two characters of its name.  Then the
records are those of the whole buffer, with the beginning of the last name for all of it.  Otherwise the error is about
the record that the last byte before the cut belongs to. -/
theorem decode_cut (front : List Identity) (last : Identity) (buffer : Bytes)
    (hpack : pack (front ++ [last]) = .ok buffer) (n : Nat) (hn : n < buffer.length) :
    let start := (front.map length).sum
    ((∃ rs, decode (buffer.take n) = .ok rs) ↔ n = 0 ∨ start + 20 ≤ n ∧ (n - start - 20) % 2 = 0 ∧
      ¬ Utf16.SplitsPair (Utf16.encode last.name) ((n - start - 20) / 2)) ∧
    (∀ rs, decode (buffer.take n) = .ok rs → n = 0 ∧ rs = [] ∨
      ∃ records r name, decode buffer = .ok (records ++ [r]) ∧ rs = records ++ [{ r with name := name }] ∧
        name <+: r.name ∧ 2 * (Utf16.encode name).length = n - start - 20) ∧
    ∀ e, decode (buffer.take n) = .error e → ∃ before i after fault, front ++ [last] = before ++ i :: after ∧
      (before.map length).sum ≤ n - 1 ∧ n - 1 < (before.map length).sum + length i ∧
      e = .record (before.map length).sum fault := by
  intro start
  obtain ⟨hc, rfl⟩ := pack_eq_ok_iff.1 hpack
  rw [length_assemble] at hn
  have hwhole := decode_of_pack hpack
  rw [chain_append last [] 0 front] at hwhole
  by_cases hzero : n = 0
  · subst hzero
    have hnil : decode ((assemble (front ++ [last])).take 0) = .ok [] := rfl
    rw [hnil]
    refine ⟨⟨fun _ => .inl rfl, fun _ => ⟨[], rfl⟩⟩, fun rs h => .inl ⟨rfl, (Except.ok.inj h).symm⟩, ?_⟩
    intro e h
    cases h
  by_cases hcut : BetweenCharacters front last n
  · obtain ⟨name, hpre, hlen, hbuffer⟩ := exists_name_of_between hcut hn
    have hshort : Chainable (front ++ [⟨name, last.guid⟩]) :=
      chainable_append.2 ⟨(chainable_append.1 hc).1, chainable_singleton _⟩
    have hdecode := decode_of_pack (pack_eq_ok_iff.2 ⟨hshort, rfl⟩)
    rw [chain_append ⟨name, last.guid⟩ [] 0 front] at hdecode
    rw [hbuffer, hdecode]
    refine ⟨⟨fun _ => .inr hcut, fun _ => ⟨_, rfl⟩⟩, fun rs h => .inr ?_, ?_⟩
    · exact ⟨_, _, name, hwhole, (Except.ok.inj h).symm, hpre, hlen⟩
    · intro e h
      cases h
  · obtain ⟨before, i, after, fault, hids, hle, hlt, herror⟩ := decode_take_error hc hn hzero hcut
    rw [herror]
    refine ⟨⟨?_, fun h => absurd h (not_or.2 ⟨hzero, hcut⟩)⟩, ?_, ?_⟩
    · rintro ⟨rs, h⟩
      cases h
    · intro rs h
      cases h
    · intro e h
      cases h
      exact ⟨before, i, after, fault, hids, hle, hlt, rfl⟩

/-- A buffer of forty-four bytes, of which the second record has a pair of surrogates for its name: cut at forty it is
read, with an empty name, and cut within the pair it is not. -/
theorem decode_cut_surrogates : ∃ buffer, pack [⟨[], default⟩, ⟨['😀'], default⟩] = .ok buffer ∧ buffer.length = 44 ∧
    (∃ rs, decode (buffer.take 40) = .ok rs ∧ rs.map NameRecord.name = [[], []]) ∧
    ∃ fault, decode (buffer.take 42) = .error (.record 20 fault) := by
  have hpack : pack ([⟨[], default⟩] ++ [⟨['😀'], default⟩]) =
      .ok (render 20 ⟨[], default⟩ ++ render 0 ⟨['😀'], default⟩) := rfl
  have hwhole : decode (render 20 ⟨[], default⟩ ++ render 0 ⟨['😀'], default⟩) =
      .ok ([⟨0, 20, default, []⟩] ++ [⟨20, 0, default, ['😀']⟩]) := rfl
  obtain ⟨hread, hrecords, -⟩ := decode_cut _ _ _ hpack 40 (by decide)
  obtain ⟨hpair, -, herror⟩ := decode_cut _ _ _ hpack 42 (by decide)
  have hstart : ¬ Utf16.SplitsPair (Utf16.encode ['😀']) 0 := by
    rintro ⟨before, high, low, after, -, hlen, -⟩
    exact Nat.succ_ne_zero _ hlen
  have hwithin : Utf16.SplitsPair (Utf16.encode ['😀']) 1 := ⟨[], 0xD83D, 0xDE00, [], by decide⟩
  refine ⟨_, hpack, rfl, ?_, ?_⟩
  · obtain ⟨rs, hrs⟩ := hread.2 (.inr ⟨by decide, rfl, hstart⟩)
    refine ⟨rs, hrs, ?_⟩
    obtain ⟨habsurd, -⟩ | ⟨records, r, name, hdecode, rfl, -, hlen⟩ := hrecords rs hrs
    · cases habsurd
    · obtain ⟨rfl, hr⟩ := List.append_inj' (Except.ok.inj (hwhole.symm.trans hdecode)) rfl
      have hnone : 2 * (Utf16.encode name).length = 0 := hlen
      have hunits : Utf16.encode name = [] := List.length_eq_zero_iff.1 (by omega)
      have hname := Utf16.decode?_encode name
      rw [hunits] at hname
      cases hname
      rfl
  · cases hdecode : decode ((render 20 ⟨[], default⟩ ++ render 0 ⟨['😀'], default⟩).take 42) with
    | ok rs =>
      obtain habsurd | ⟨-, -, hno⟩ := hpair.1 ⟨rs, hdecode⟩
      · cases habsurd
      · exact absurd hwithin hno
    | error e =>
      obtain ⟨before, i, after, fault, hids, hle, hlt, rfl⟩ := herror e hdecode
      match before, hids with
      | [], hids =>
        cases hids
        exact absurd hlt (by decide)
      | [_], hids =>
        cases hids
        exact ⟨fault, rfl⟩
      | _ :: _ :: before, hids => simp at hids

end NameRecord
end FirmwareVars
