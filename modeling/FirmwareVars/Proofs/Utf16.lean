import FirmwareVars.Proofs.Bytes
import FirmwareVars.Proofs.Utf8
import FirmwareVars.Text.Utf16
/-!
# UTF-16, both ways

Reading code units gives exactly the texts that were written in them (`decode?_eq_some_iff`), and reading bytes gives
exactly the units that were written in them (`unitsOf?_eq_some_iff`).  So a text has one form in bytes, and a byte
string is the form of at most one text: a lone or swapped surrogate is the form of none.  The first units of a text are
those of its beginning, unless they end between the halves of a pair, where they are those of no text
(`exists_isPrefix_of_take`, `decode?_take_of_splitsPair`).  No text has more units than it has bytes in UTF-8
(`length_encode_le`).
-/
namespace FirmwareVars
namespace Utf16

/-! ## One character -/

theorem toNat_ofNat {n : Nat} (h : n < 0x10000) : (UInt16.ofNat n).toNat = n := by
  rw [UInt16.toNat_ofNat']
  exact Nat.mod_eq_of_lt h

/-- The unit of a character of the basic plane is no surrogate. -/
theorem encodeChar_basic {c : Char} (h : c.toNat < 0x10000) :
    ∃ u, encodeChar c = [u] ∧ u.toNat = c.toNat ∧ isHigh u = false ∧ isLow u = false := by
  have hn := toNat_ofNat h
  have hc := Character.toNat_cases c
  refine ⟨UInt16.ofNat c.toNat, ?_, hn, ?_, ?_⟩
  · simp only [encodeChar, if_pos h]
  · simp only [isHigh, hn, Bool.and_eq_false_iff, decide_eq_false_iff_not]
    omega
  · simp only [isLow, hn, Bool.and_eq_false_iff, decide_eq_false_iff_not]
    omega

/-- A character outside the basic plane is a high surrogate and a low one. -/
theorem encodeChar_pair {c : Char} (h : ¬ c.toNat < 0x10000) :
    ∃ u v, encodeChar c = [u, v] ∧ isHigh u = true ∧ isLow v = true ∧ pair u v = c := by
  have hc := Character.toNat_cases c
  have hu : (UInt16.ofNat (0xD800 + (c.toNat - 0x10000) / 0x400)).toNat = 0xD800 + (c.toNat - 0x10000) / 0x400 :=
    toNat_ofNat (by omega)
  have hv : (UInt16.ofNat (0xDC00 + (c.toNat - 0x10000) % 0x400)).toNat = 0xDC00 + (c.toNat - 0x10000) % 0x400 :=
    toNat_ofNat (by omega)
  have hsplit : encodeChar c = [UInt16.ofNat (0xD800 + (c.toNat - 0x10000) / 0x400),
      UInt16.ofNat (0xDC00 + (c.toNat - 0x10000) % 0x400)] := by simp only [encodeChar, if_neg h]
  refine ⟨_, _, hsplit, ?_, ?_, ?_⟩
  · simp only [isHigh, hu, Bool.and_eq_true, decide_eq_true_eq]
    omega
  · simp only [isLow, hv, Bool.and_eq_true, decide_eq_true_eq]
    omega
  · have hsum : 0x10000 + (0xD800 + (c.toNat - 0x10000) / 0x400 - 0xD800) * 0x400 +
        (0xDC00 + (c.toNat - 0x10000) % 0x400 - 0xDC00) = c.toNat := by omega
    rw [pair, hu, hv, hsum, Char.ofNat_toNat]

theorem encodeChar_ofNat {u : UInt16} (hh : isHigh u = false) (hl : isLow u = false) :
    encodeChar (Char.ofNat u.toNat) = [u] := by
  have hu := u.toNat_lt
  simp only [isHigh, isLow, Bool.and_eq_false_iff, decide_eq_false_iff_not] at hh hl
  have hn : (Char.ofNat u.toNat).toNat = u.toNat := Character.toNat_ofNat (by unfold Nat.isValidChar; omega)
  simp only [encodeChar, hn, if_pos hu, UInt16.ofNat_toNat]

theorem encodeChar_of_pair {u v : UInt16} (hu : isHigh u = true) (hv : isLow v = true) :
    encodeChar (pair u v) = [u, v] := by
  simp only [isHigh, isLow, Bool.and_eq_true, decide_eq_true_eq] at hu hv
  have hn : (pair u v).toNat = 0x10000 + (u.toNat - 0xD800) * 0x400 + (v.toNat - 0xDC00) :=
    Character.toNat_ofNat (by unfold Nat.isValidChar; omega)
  have h : ¬ (pair u v).toNat < 0x10000 := by omega
  have hhigh : 0xD800 + ((pair u v).toNat - 0x10000) / 0x400 = u.toNat := by omega
  have hlow : 0xDC00 + ((pair u v).toNat - 0x10000) % 0x400 = v.toNat := by omega
  simp only [encodeChar, if_neg h, hhigh, hlow, UInt16.ofNat_toNat]

/-! ## Texts -/

theorem decode?_cons_basic {u : UInt16} (hh : isHigh u = false) (hl : isLow u = false) :
    ∀ rest : List UInt16, decode? (u :: rest) = (decode? rest).map (Char.ofNat u.toNat :: ·)
  | [] => by simp [decode?, hh, hl]
  | v :: rest => by simp [decode?, hh, hl]

theorem decode?_cons_pair {u v : UInt16} (hu : isHigh u = true) (hv : isLow v = true) (rest : List UInt16) :
    decode? (u :: v :: rest) = (decode? rest).map (pair u v :: ·) := by
  simp [decode?, hu, hv]

theorem decode?_encodeChar_append (c : Char) (rest : List UInt16) :
    decode? (encodeChar c ++ rest) = (decode? rest).map (c :: ·) := by
  by_cases h : c.toNat < 0x10000
  · obtain ⟨u, hu, hn, hh, hl⟩ := encodeChar_basic h
    rw [hu, List.cons_append, List.nil_append, decode?_cons_basic hh hl, hn, Char.ofNat_toNat]
  · obtain ⟨u, v, huv, hu, hv, hp⟩ := encodeChar_pair h
    rw [huv, List.cons_append, List.cons_append, List.nil_append, decode?_cons_pair hu hv, hp]

theorem encode_cons (c : Char) (t : Text) : encode (c :: t) = encodeChar c ++ encode t := List.flatMap_cons

/-- **Every text is read back from its units.** -/
theorem decode?_encode : ∀ t : Text, decode? (encode t) = some t
  | [] => rfl
  | c :: t => by rw [encode_cons, decode?_encodeChar_append, decode?_encode t, Option.map_some]

/-- **Units that are read are the units of what they are read as.** -/
theorem encode_of_decode? {units : List UInt16} {t : Text} (h : decode? units = some t) : encode t = units := by
  fun_induction decode? units generalizing t with
  | case1 =>
    cases h
    rfl
  | case2 u hs => cases h
  | case3 u hs =>
    simp only [Bool.or_eq_true, not_or, Bool.not_eq_true] at hs
    cases h
    rw [encode_cons, encodeChar_ofNat hs.1 hs.2]
    rfl
  | case4 u v rest hu hv ih =>
    obtain ⟨t', ht, rfl⟩ := Option.map_eq_some_iff.1 h
    rw [encode_cons, encodeChar_of_pair hu hv, ih ht]
    rfl
  | case5 u v rest hu hv => cases h
  | case6 u v rest hu hl => cases h
  | case7 u v rest hu hl ih =>
    obtain ⟨t', ht, rfl⟩ := Option.map_eq_some_iff.1 h
    rw [encode_cons, encodeChar_ofNat (by simpa using hu) (by simpa using hl), ih ht]
    rfl

theorem decode?_eq_some_iff {units : List UInt16} {t : Text} : decode? units = some t ↔ units = encode t :=
  ⟨fun h => (encode_of_decode? h).symm, fun h => h ▸ decode?_encode t⟩

/-! ## Cut texts -/

/-- The first `k` of the units end between the halves of a pair. -/
def SplitsPair (units : List UInt16) (k : Nat) : Prop :=
  ∃ before high low after, units = before ++ high :: low :: after ∧ before.length + 1 = k ∧
    isHigh high = true ∧ isLow low = true

theorem SplitsPair.cons {units : List UInt16} {k : Nat} (u : UInt16) (h : SplitsPair units k) :
    SplitsPair (u :: units) (k + 1) := by
  obtain ⟨before, high, low, after, rfl, hk, hh, hl⟩ := h
  exact ⟨u :: before, high, low, after, rfl, congrArg (· + 1) hk, hh, hl⟩

/-- **The first units of a text are those of its beginning**, unless they end within a pair. -/
theorem exists_isPrefix_of_take : ∀ (t : Text) (k : Nat), ¬ SplitsPair (encode t) k →
    ∃ t', t' <+: t ∧ encode t' = (encode t).take k
  | [], _, _ => ⟨[], List.nil_prefix, List.take_nil.symm⟩
  | _ :: _, 0, _ => ⟨[], List.nil_prefix, rfl⟩
  | c :: t, k + 1, h => by
    by_cases hc : c.toNat < 0x10000
    · obtain ⟨u, hu, -⟩ := encodeChar_basic hc
      rw [encode_cons, hu, List.singleton_append] at h
      obtain ⟨t', hpre, henc⟩ := exists_isPrefix_of_take t k fun hs => h (hs.cons u)
      refine ⟨c :: t', List.cons_prefix_cons.2 ⟨rfl, hpre⟩, ?_⟩
      rw [encode_cons, encode_cons, hu, henc]
      rfl
    · obtain ⟨u, v, huv, hu, hv, -⟩ := encodeChar_pair hc
      rw [encode_cons, huv, List.cons_append, List.singleton_append] at h
      cases k with
      | zero => exact absurd ⟨[], u, v, encode t, rfl, rfl, hu, hv⟩ h
      | succ k =>
        obtain ⟨t', hpre, henc⟩ := exists_isPrefix_of_take t k fun hs => h ((hs.cons v).cons u)
        refine ⟨c :: t', List.cons_prefix_cons.2 ⟨rfl, hpre⟩, ?_⟩
        rw [encode_cons, encode_cons, huv, henc]
        rfl

theorem decode?_encode_append (rest : List UInt16) : ∀ t : Text,
    decode? (encode t ++ rest) = (decode? rest).map (t ++ ·)
  | [] => Option.map_id'.symm
  | c :: t => by
    rw [encode_cons, List.append_assoc, decode?_encodeChar_append, decode?_encode_append rest t, Option.map_map]
    rfl

/-- No text begins with the low half of a pair. -/
theorem decode?_cons_low {u : UInt16} (hl : isLow u = true) (rest : List UInt16) : decode? (u :: rest) = none := by
  have hh : isHigh u = false := by
    simp only [isLow, isHigh, Bool.and_eq_true, Bool.and_eq_false_iff, decide_eq_true_eq, decide_eq_false_iff_not] at hl ⊢
    omega
  cases rest <;> simp [decode?, hl, hh]

/-- **Units that end within a pair are those of no text.** -/
theorem decode?_take_of_splitsPair {t : Text} {k : Nat} (h : SplitsPair (encode t) k) :
    decode? ((encode t).take k) = none := by
  obtain ⟨before, high, low, after, heq, rfl, hh, hl⟩ := h
  have htake : (encode t).take (before.length + 1) = before ++ [high] := by
    rw [heq, List.take_length_add_append]
    rfl
  have hcut : encode t = (before ++ [high]) ++ low :: after := by rw [heq, List.append_assoc]; rfl
  rw [htake]
  refine Option.eq_none_iff_forall_ne_some.2 fun t' ht' => ?_
  -- what follows such a text begins with a low half, so the whole is no text either
  have hwhole := decode?_encode t
  rw [hcut, decode?_eq_some_iff.1 ht', decode?_encode_append, decode?_cons_low hl] at hwhole
  cases hwhole

/-! ## Against UTF-8 -/

/-- A pair of units stands for a character of four bytes. -/
theorem length_encodeChar_le (c : Char) : (encodeChar c).length ≤ (Utf8.encodeChar c).length := by
  by_cases h : c.toNat < 0x10000
  · obtain ⟨u, hu, -⟩ := encodeChar_basic h
    rw [hu, Utf8.encodeChar, String.length_utf8EncodeChar]
    exact c.utf8Size_pos
  · obtain ⟨u, v, huv, -⟩ := encodeChar_pair h
    rw [huv, Utf8.encodeChar_four (by omega)]
    simp

/-- **No text has more units in UTF-16 than bytes in UTF-8.** -/
theorem length_encode_le : ∀ t : Text, (encode t).length ≤ (Utf8.encode t).length
  | [] => Nat.le_refl 0
  | c :: t => by
    have hc := length_encodeChar_le c
    have ht := length_encode_le t
    rw [encode_cons, Utf8.encode_cons, List.length_append, List.length_append]
    omega

/-! ## Bytes -/

theorem toBytes_cons (u : UInt16) (us : List UInt16) :
    toBytes (u :: us) = UInt8.ofNat (u.toNat % 256) :: UInt8.ofNat (u.toNat / 256 % 256) :: toBytes us := by
  rw [toBytes, List.flatMap_cons]
  rfl

@[simp] theorem length_toBytes : ∀ us : List UInt16, (toBytes us).length = 2 * us.length
  | [] => rfl
  | u :: us => by
    rw [toBytes_cons, List.length_cons, List.length_cons, List.length_cons, length_toBytes us]
    omega

theorem unitsOf?_toBytes : ∀ us : List UInt16, unitsOf? (toBytes us) = some us
  | [] => rfl
  | u :: us => by
    have hu := u.toNat_lt
    have hlow : (UInt8.ofNat (u.toNat % 256)).toNat = u.toNat % 256 := by
      rw [UInt8.toNat_ofNat']
      omega
    have hhigh : (UInt8.ofNat (u.toNat / 256 % 256)).toNat = u.toNat / 256 := by
      rw [UInt8.toNat_ofNat']
      omega
    have hsum : u.toNat % 256 + 256 * (u.toNat / 256) = u.toNat := Nat.mod_add_div _ _
    rw [toBytes_cons, unitsOf?, unitsOf?_toBytes us, Option.map_some, hlow, hhigh, hsum, UInt16.ofNat_toNat]

theorem toBytes_of_unitsOf? {bs : Bytes} {us : List UInt16} (h : unitsOf? bs = some us) : toBytes us = bs := by
  fun_induction unitsOf? bs generalizing us with
  | case1 =>
    cases h
    rfl
  | case2 => cases h
  | case3 low high rest ih =>
    obtain ⟨us', hus, rfl⟩ := Option.map_eq_some_iff.1 h
    have hl := low.toNat_lt
    have hh := high.toNat_lt
    have hn : (UInt16.ofNat (low.toNat + 256 * high.toNat)).toNat = low.toNat + 256 * high.toNat :=
      toNat_ofNat (by omega)
    have hlow : (low.toNat + 256 * high.toNat) % 256 = low.toNat := by omega
    have hhigh : (low.toNat + 256 * high.toNat) / 256 % 256 = high.toNat := by omega
    rw [toBytes_cons, hn, hlow, hhigh, UInt8.ofNat_toNat, UInt8.ofNat_toNat, ih hus]

theorem take_toBytes : ∀ (us : List UInt16) (k : Nat), (toBytes us).take (2 * k) = toBytes (us.take k)
  | [], k => by rw [List.take_nil, toBytes, List.flatMap_nil, List.take_nil]
  | _ :: _, 0 => rfl
  | u :: us, k + 1 => by
    rw [List.take_succ_cons, toBytes_cons, toBytes_cons, Nat.mul_succ, List.take_succ_cons, List.take_succ_cons,
      take_toBytes us k]

theorem unitsOf?_eq_some_iff {bs : Bytes} {us : List UInt16} : unitsOf? bs = some us ↔ bs = toBytes us :=
  ⟨fun h => (toBytes_of_unitsOf? h).symm, fun h => h ▸ unitsOf?_toBytes us⟩

theorem unitsOf?_of_odd {bs : Bytes} (h : bs.length % 2 = 1) : unitsOf? bs = none := by
  refine Option.eq_none_iff_forall_ne_some.2 fun us hus => ?_
  rw [unitsOf?_eq_some_iff.1 hus, length_toBytes] at h
  omega

end Utf16
end FirmwareVars
