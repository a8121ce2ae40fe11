import FirmwareVars.Proofs.EntryName.Grammar
/-!
# Entry names, there and back

Every identity that is written is read back, so no two of them share an entry name.  The other way an entry may change,
but only in the case of its last letters: what is written for an identity that was read is the entry with its GUID in
lower case (`lowered`), and entries are read alike exactly when these are the same.
-/
namespace FirmwareVars
namespace EntryName

/-- The entry with its GUID, the last 36 characters, in lower case. -/
def lowered (entry : Text) : Text :=
  entry.take (entry.length - 36) ++ (entry.drop (entry.length - 36)).map Char.toLower

theorem lowered_append (front : Text) {tail : Text} (h : tail.length = 36) :
    lowered (front ++ tail) = front ++ tail.map Char.toLower := by
  have hlen : (front ++ tail).length - 36 = front.length := by
    rw [List.length_append, h, Nat.add_sub_cancel]
  rw [lowered, hlen, List.take_left, List.drop_left]

/-- **In lower case an entry is the one that is written for its identity.** -/
theorem lowered_of_spells {entry : Text} {i : Identity} (h : Spells entry i) : lowered entry = i.spell := by
  obtain ⟨t, rfl, ht⟩ := h.hyphenated
  have hcons : i.name ++ '-' :: t = (i.name ++ ['-']) ++ t := by simp
  rw [hcons, lowered_append _ ht.length, ht.lower, Identity.spell]

theorem spells_spell {i : Identity} (h : i.name ≠ []) : Spells i.spell i := by
  refine ⟨h, i.guid.spell, ?_, Guid.hyphenated_spell i.guid⟩
  rw [Identity.spell, List.append_assoc]
  rfl

theorem lowered_spell {i : Identity} (h : i.name ≠ []) : lowered i.spell = i.spell :=
  lowered_of_spells (spells_spell h)

theorem encode_eq_ok_iff {i : Identity} {entry : Text} :
    encode i = .ok entry ↔ Addressable i ∧ entry = i.spell := by
  by_cases h : Addressable i
  · rw [encode_of_addressable h]
    simp [h, eq_comm]
  · rw [encode_of_not_addressable h]
    simp [h]

/-- **Entries are read alike exactly when they differ at most in the case of the last 36 characters.** -/
theorem eq_iff_of_spells {entry other : Text} {i j : Identity} (h : Spells entry i) (h' : Spells other j) :
    i = j ↔ ∃ front tail tail', entry = front ++ tail ∧ other = front ++ tail' ∧
      tail.length = 36 ∧ tail'.length = 36 ∧ tail.map Char.toLower = tail'.map Char.toLower := by
  constructor
  · rintro rfl
    obtain ⟨t, rfl, ht⟩ := h.hyphenated
    obtain ⟨t', rfl, ht'⟩ := h'.hyphenated
    exact ⟨i.name ++ ['-'], t, t', by simp, by simp, ht.length, ht'.length, by rw [ht.lower, ht'.lower]⟩
  · rintro ⟨front, tail, tail', rfl, rfl, hlen, hlen', hlower⟩
    apply spell_injective
    rw [← lowered_of_spells h, ← lowered_of_spells h', lowered_append front hlen, lowered_append front hlen', hlower]

/-- **Entry names and identities determine each other.**  An identity is written exactly when its name is not empty and
has neither a path separator nor a NUL; what is written is read back, and is written for no other identity.  What is
written for an identity that was read is the entry with its last 36 characters in lower case, and is read as the same
identity.  So two entries are read as one identity exactly when they differ at most in the case of these characters. -/
theorem encode_decode_alike :
    (∀ i, (∃ entry, encode i = .ok entry) ↔ i.name ≠ [] ∧ '/' ∉ i.name ∧ '\x00' ∉ i.name) ∧
    (∀ i entry, encode i = .ok entry → decode entry = .ok i) ∧
    (∀ i j entry, encode i = .ok entry → encode j = .ok entry → i = j) ∧
    (∀ entry i, decode entry = .ok i → '/' ∉ i.name → '\x00' ∉ i.name →
      36 ≤ entry.length ∧
      encode i = .ok (entry.take (entry.length - 36) ++ (entry.drop (entry.length - 36)).map Char.toLower) ∧
      decode (entry.take (entry.length - 36) ++ (entry.drop (entry.length - 36)).map Char.toLower) = .ok i) ∧
    ∀ entry other i j, decode entry = .ok i → decode other = .ok j →
      (i = j ↔ ∃ front tail tail', entry = front ++ tail ∧ other = front ++ tail' ∧
        tail.length = 36 ∧ tail'.length = 36 ∧ tail.map Char.toLower = tail'.map Char.toLower) := by
  have hback : ∀ i entry, encode i = .ok entry → decode entry = .ok i := by
    intro i entry h
    obtain ⟨ha, rfl⟩ := encode_eq_ok_iff.1 h
    exact decode_spell ha.1
  refine ⟨fun i => ?_, hback, fun i j entry hi hj => ?_, fun entry i h hslash hzero => ?_, fun entry other i j h h' => ?_⟩
  · simp [encode_eq_ok_iff, Addressable]
  · have hsame := (hback i entry hi).symm.trans (hback j entry hj)
    exact Except.ok.inj hsame
  · have hs := decode_eq_ok_iff.1 h
    obtain ⟨t, ht, hform⟩ := hs.hyphenated
    have hlen : 36 ≤ entry.length := by
      rw [ht, List.length_append, List.length_cons, hform.length]
      omega
    have hlower : lowered entry = i.spell := lowered_of_spells hs
    rw [lowered] at hlower
    rw [hlower]
    exact ⟨hlen, encode_of_addressable ⟨hs.ne_nil, hslash, hzero⟩, decode_spell hs.ne_nil⟩
  · exact eq_iff_of_spells (decode_eq_ok_iff.1 h) (decode_eq_ok_iff.1 h')

/-- A name that itself ends like an entry name, before a GUID in upper case. -/
theorem encode_decode_nested :
    let i : Identity := ⟨"B--00000000-0000-0000-0000-00000000000a".toList, ⟨0, 0, 0, 11⟩⟩
    let upper := "B--00000000-0000-0000-0000-00000000000a-00000000-0000-0000-0000-00000000000B".toList
    let lower := "B--00000000-0000-0000-0000-00000000000a-00000000-0000-0000-0000-00000000000b".toList
    decode upper = .ok i ∧ encode i = .ok lower ∧ decode lower = .ok i ∧
      ∃ front tail tail', upper = front ++ tail ∧ lower = front ++ tail' ∧
        tail.length = 36 ∧ tail'.length = 36 ∧ tail.map Char.toLower = tail'.map Char.toLower := by
  intro i upper lower
  obtain ⟨-, hback, -, hlower, halike⟩ := encode_decode_alike
  have hupper : decode upper = .ok i := by decide +kernel
  have hsame : upper.take (upper.length - 36) ++ (upper.drop (upper.length - 36)).map Char.toLower = lower := by
    decide +kernel
  obtain ⟨-, hencode, hdecode⟩ := hlower upper i hupper (by decide) (by decide)
  rw [hsame] at hencode hdecode
  exact ⟨hupper, hencode, hdecode, (halike upper lower i i hupper (hback i lower hencode)).1 rfl⟩

end EntryName
end FirmwareVars
