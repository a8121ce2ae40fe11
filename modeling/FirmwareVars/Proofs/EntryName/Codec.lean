import FirmwareVars.EntryName
import FirmwareVars.Proofs.Guid.Spelling
import FirmwareVars.Proofs.Utf8
/-!
# Entry names, written and read

An identity is written exactly when it is `Addressable`, and what is written is read back as that identity, whatever
hyphens its name has (`decode_spell`): the last five pieces are the groups of the GUID, and joining the pieces before
them undoes the cut.
-/
namespace FirmwareVars
namespace EntryName

/-! ## Writing -/

/-- The identity has an entry name: its name is not empty and has neither a path separator nor a NUL. -/
def Addressable (i : Identity) : Prop := i.name ≠ [] ∧ '/' ∉ i.name ∧ '\x00' ∉ i.name

instance (i : Identity) : Decidable (Addressable i) := inferInstanceAs (Decidable (_ ∧ _))

theorem any_isUnsafe_eq_false {t : Text} : t.any isUnsafe = false ↔ '/' ∉ t ∧ '\x00' ∉ t := by
  rw [List.any_eq_false]
  constructor
  · intro h
    exact ⟨fun hm => h _ hm rfl, fun hm => h _ hm rfl⟩
  · rintro ⟨hs, hn⟩ c hc hu
    rw [isUnsafe, Bool.or_eq_true, beq_iff_eq, beq_iff_eq] at hu
    rcases hu with rfl | rfl
    · exact hs hc
    · exact hn hc

/-- What is wrong with an identity that has no entry name. -/
def refusal (i : Identity) : IdentityFault := if i.name = [] then .emptyName else .unsafeName i.name

theorem encode_of_addressable {i : Identity} (h : Addressable i) : encode i = .ok i.spell := by
  rw [encode, if_neg h.1, any_isUnsafe_eq_false.2 h.2]
  exact if_neg Bool.false_ne_true

theorem encode_of_not_addressable {i : Identity} (h : ¬ Addressable i) : encode i = .error (.identity (refusal i)) := by
  rw [encode, refusal]
  by_cases hn : i.name = []
  · rw [if_pos hn, if_pos hn]
  · rw [if_neg hn, if_neg hn, if_pos]
    cases hu : i.name.any isUnsafe with
    | true => rfl
    | false => exact absurd ⟨hn, any_isUnsafe_eq_false.1 hu⟩ h

/-- A character of an entry name that the GUID cannot bring in comes from the name. -/
theorem notMem_spell {i : Identity} {c : Char} (hname : c ∉ i.name) (hhyphen : c ≠ '-')
    (hdigit : Numeral.isHexDigit c = false) : c ∉ i.spell := by
  rw [Identity.spell, List.mem_append, List.mem_append, List.mem_singleton]
  rintro ((hc | hc) | hc)
  · exact hname hc
  · exact hhyphen hc
  · rcases Guid.mem_spell hc with hc | hc
    · exact hhyphen hc
    · rw [hdigit] at hc
      cases hc

/-! ## Reading -/

/-- **Every error of reading an entry name carries the entry itself.** -/
theorem entry_of_decode_eq_error {entry : Text} {e : NamingError} (h : decode entry = .error e) :
    ∃ fault, e = .entry entry fault := by
  unfold decode at h
  simp only at h
  split at h
  · cases h
    exact ⟨_, rfl⟩
  split at h
  · cases h
    exact ⟨_, rfl⟩
  split at h
  · cases h
    exact ⟨_, rfl⟩
  split at h
  · cases h
    exact ⟨_, rfl⟩
  · cases h

/-- A group passes the check exactly when it is one: digits are ASCII, so they are as many as their bytes. -/
theorem not_bad_iff {width : Nat} {group : Text} :
    ¬ ((Utf8.encode group).length ≠ width ∨ !group.all Numeral.isHexDigit) ↔ Guid.IsGroup width group := by
  have hascii (h : ∀ c ∈ group, Numeral.isHexDigit c = true) : (Utf8.encode group).length = group.length := by
    apply Utf8.length_encode_of_ascii
    intro c hc
    have := Numeral.isHexDigit_iff.1 (h c hc)
    omega
  rw [not_or, Decidable.not_not, Bool.not_eq_true, Bool.not_eq_false', List.all_eq_true]
  constructor
  · rintro ⟨hlen, hdigits⟩
    exact ⟨by rw [← hascii hdigits, hlen], hdigits⟩
  · rintro ⟨hlen, hdigits⟩
    exact ⟨by rw [hascii hdigits, hlen], hdigits⟩

theorem badGroup?_cons {width : Nat} {group : Text} (h : Guid.IsGroup width group) (groups : List Text)
    (widths : List Nat) : badGroup? (group :: groups) (width :: widths) = badGroup? groups widths := by
  rw [badGroup?, if_neg (not_bad_iff.2 h)]

theorem badGroup?_grouped {gs : List Text} (h : Guid.Grouped gs) : badGroup? gs Guid.groupWidths = none := by
  cases h with
  | mk ha hb hc hd he =>
    rw [Guid.groupWidths, badGroup?_cons ha, badGroup?_cons hb, badGroup?_cons hc, badGroup?_cons hd,
      badGroup?_cons he]
    rfl

/-- **A name, a hyphen and five groups are read as the name and the GUID of the groups.** -/
theorem decode_grouped {name : Text} (hname : name ≠ []) {gs : List Text} (hgs : Guid.Grouped gs) {g : Guid}
    (hg : Guid.ofGroups? gs = some g) : decode (name ++ '-' :: Text.joinWith ['-'] gs) = .ok ⟨name, g⟩ := by
  have hcut : Text.splitOn '-' (name ++ '-' :: Text.joinWith ['-'] gs) = Text.splitOn '-' name ++ gs := by
    rw [Text.splitOn_append, hgs.splitOn_joinWith]
  have hlen : (Text.splitOn '-' name ++ gs).length = (Text.splitOn '-' name).length + guidSegments := by
    rw [List.length_append, hgs.length_eq, guidSegments]
  have hfew : ¬ (Text.splitOn '-' name).length + guidSegments < guidSegments := by omega
  unfold decode
  simp only [hcut, hlen, if_neg hfew, Nat.add_sub_cancel, List.take_left, List.drop_left, badGroup?_grouped hgs,
    Guid.parse?_joinWith hgs, hg, Text.joinWith_splitOn, if_neg hname]

/-- **An identity is read back from its entry name.** -/
theorem decode_spell {i : Identity} (h : i.name ≠ []) : decode i.spell = .ok i := by
  have hspell : i.spell = i.name ++ '-' :: Text.joinWith ['-'] i.guid.groups := by
    rw [Identity.spell, List.append_assoc]
    rfl
  rw [hspell, decode_grouped h (Guid.grouped_groups i.guid) (Guid.ofGroups?_groups i.guid)]

theorem spell_injective {i j : Identity} (h : i.spell = j.spell) : i = j := by
  obtain ⟨n, g⟩ := i
  obtain ⟨n', g'⟩ := j
  simp only [Identity.spell, List.append_assoc] at h
  have hlen : (['-'] ++ g.spell).length = (['-'] ++ g'.spell).length := by
    rw [List.length_append, List.length_append, Guid.length_spell, Guid.length_spell]
  obtain ⟨rfl, hg⟩ := List.append_inj' h hlen
  rw [Guid.spell_injective (List.append_cancel_left hg)]

end EntryName
end FirmwareVars
