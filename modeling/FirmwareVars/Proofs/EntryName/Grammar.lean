import FirmwareVars.Proofs.EntryName.Codec
/-!
# The grammar of entry names

`Spells entry i` says what an entry name of an identity is, without cutting it: the name, a hyphen, and the GUID with
digits in either case.  Reading accepts these texts and no others (`decode_eq_ok_iff`).  What passes the checks of the
groups is read as a GUID, so every refusal is for one of the other reasons (`decode_accepts_grammar`).
-/
namespace FirmwareVars
namespace EntryName

/-- The text is an entry name of the identity. -/
structure Spells (entry : Text) (i : Identity) : Prop where
  ne_nil : i.name ≠ []
  hyphenated : ∃ t, entry = i.name ++ '-' :: t ∧ Guid.Hyphenated t i.guid

theorem Spells.length_encode {entry : Text} {i : Identity} (h : Spells entry i) :
    (Utf8.encode entry).length = (Utf8.encode i.name).length + 37 := by
  obtain ⟨t, rfl, ht⟩ := h.hyphenated
  have hhyphen : Utf8.encodeChar '-' = [45] := Utf8.encodeChar_one (by decide)
  rw [Utf8.encode_append, Utf8.encode_cons, hhyphen, List.length_append, List.length_append, ht.length_encode,
    List.length_singleton]

/-! ## What the checks let through -/

theorem badGroup?_cons_eq_none_iff {group : Text} {groups : List Text} {width : Nat} {widths : List Nat} :
    badGroup? (group :: groups) (width :: widths) = none ↔ Guid.IsGroup width group ∧ badGroup? groups widths = none := by
  by_cases h : Guid.IsGroup width group
  · rw [badGroup?_cons h]
    simp [h]
  · rw [badGroup?, if_pos (Decidable.not_not.1 fun hn => h (not_bad_iff.1 hn))]
    simp [h]

theorem grouped_of_badGroup? : ∀ {gs : List Text}, gs.length = guidSegments →
    badGroup? gs Guid.groupWidths = none → Guid.Grouped gs
  | [a, b, c, d, e], _, h => by
    simp only [Guid.groupWidths, badGroup?_cons_eq_none_iff] at h
    obtain ⟨ha, hb, hc, hd, he, -⟩ := h
    exact ⟨ha, hb, hc, hd, he⟩
  | [], h, _ | [_], h, _ | [_, _], h, _ | [_, _, _], h, _ | [_, _, _, _], h, _ => by cases h
  | _ :: _ :: _ :: _ :: _ :: _ :: _, h, _ => by
    simp only [List.length_cons, guidSegments] at h
    omega

/-- **What passes the checks of the groups is read as a GUID.** -/
theorem exists_parse? {gs : List Text} (hlen : gs.length = guidSegments)
    (h : badGroup? gs Guid.groupWidths = none) :
    ∃ g, Guid.parse? (Text.joinWith ['-'] gs) = some g ∧ Guid.Hyphenated (Text.joinWith ['-'] gs) g := by
  have hgs := grouped_of_badGroup? hlen h
  obtain ⟨g, hg, -⟩ := hgs.exists_ofGroups?
  refine ⟨g, ?_, ⟨gs, hgs, rfl⟩, hgs.ofGroups?_eq_some_iff.1 hg⟩
  rw [Guid.parse?_joinWith hgs, hg]

/-! ## What is read -/

theorem decode_of_few {entry : Text} (h : (Text.splitOn '-' entry).length < guidSegments) :
    decode entry = .error (.entry entry (.fewSegments (Text.splitOn '-' entry).length)) := if_pos h

/-- An entry that is cut before its last five segments. -/
theorem decode_of_cut {entry : Text} {parts groups : List Text} (hcut : Text.splitOn '-' entry = parts ++ groups)
    (hlen : groups.length = guidSegments) : decode entry =
      match badGroup? groups Guid.groupWidths with
      | some (group, width) => .error (.entry entry (.badGroup group width))
      | none =>
        match Guid.parse? (Text.joinWith ['-'] groups) with
        | none => .error (.entry entry .unreadableGuid)
        | some guid =>
          if Text.joinWith ['-'] parts = [] then .error (.entry entry .emptyName)
          else .ok ⟨Text.joinWith ['-'] parts, guid⟩ := by
  have hsplit : (parts ++ groups).length - guidSegments = parts.length := by
    rw [List.length_append, hlen, Nat.add_sub_cancel]
  have hfew : ¬ (parts ++ groups).length < guidSegments := by
    rw [List.length_append, hlen]
    omega
  unfold decode
  cases hbad : badGroup? groups Guid.groupWidths with
  | some bad => simp only [hcut, if_neg hfew, hsplit, List.drop_left, hbad]
  | none =>
    cases hparse : Guid.parse? (Text.joinWith ['-'] groups) with
    | none => simp only [hcut, if_neg hfew, hsplit, List.drop_left, hbad, hparse]
    | some guid => simp only [hcut, if_neg hfew, hsplit, List.take_left, List.drop_left, hbad, hparse]

/-- **The two ways in which reading ends**: with an identity that the entry spells, or with a refusal of the entry. -/
theorem decode_cases (entry : Text) : (∃ i, decode entry = .ok i ∧ Spells entry i) ∨
    ∃ fault, decode entry = .error (.entry entry fault) ∧ fault ≠ .unreadableGuid := by
  by_cases hfew : (Text.splitOn '-' entry).length < guidSegments
  · exact .inr ⟨_, decode_of_few hfew, by simp⟩
  have hjoin := @Text.joinWith_splitOn '-' entry
  obtain ⟨parts, groups, hcut, hlen⟩ : ∃ parts groups, Text.splitOn '-' entry = parts ++ groups ∧
      groups.length = guidSegments := by
    refine ⟨_, _, (List.take_append_drop ((Text.splitOn '-' entry).length - guidSegments) _).symm, ?_⟩
    rw [List.length_drop]
    omega
  rw [decode_of_cut hcut hlen]
  cases hbad : badGroup? groups Guid.groupWidths with
  | some bad => exact .inr ⟨.badGroup bad.1 bad.2, rfl, by simp⟩
  | none =>
    obtain ⟨g, hparse, hg⟩ := exists_parse? hlen hbad
    simp only [hparse]
    by_cases hname : Text.joinWith ['-'] parts = []
    · exact .inr ⟨.emptyName, if_pos hname, by simp⟩
    · have hparts : parts ≠ [] := by
        rintro rfl
        exact hname rfl
      have hgroups : groups ≠ [] := List.ne_nil_of_length_pos (by rw [hlen]; decide)
      refine .inl ⟨⟨_, g⟩, if_neg hname, hname, _, ?_, hg⟩
      rw [← hjoin, hcut, Text.joinWith_append ['-'] hgroups hparts, List.append_assoc]
      rfl

theorem decode_of_spells {entry : Text} {i : Identity} (h : Spells entry i) : decode entry = .ok i := by
  obtain ⟨t, rfl, ⟨gs, hgs, rfl⟩, hlower⟩ := h.hyphenated
  exact decode_grouped h.ne_nil hgs (hgs.ofGroups?_eq_some_iff.2 hlower)

/-- **Reading an entry name gives the identity that it spells.** -/
theorem decode_eq_ok_iff {entry : Text} {i : Identity} : decode entry = .ok i ↔ Spells entry i := by
  refine ⟨fun h => ?_, decode_of_spells⟩
  rcases decode_cases entry with ⟨j, hj, hs⟩ | ⟨fault, hf, -⟩
  · rw [hj] at h
    cases h
    exact hs
  · rw [hf] at h
    cases h

/-- **The grammar of entry names.**  A text is read as a name and a GUID exactly when it is the name, which is not empty,
a hyphen, and five groups of 8, 4, 4, 4 and 12 hexadecimal digits with single hyphens between them that spell the GUID
in either case.  Any text without such a form is refused with an error that carries the text itself, and the groups
that were checked are never refused as a GUID. -/
theorem decode_accepts_grammar (entry : Text) :
    (∀ name guid, decode entry = .ok ⟨name, guid⟩ ↔
      name ≠ [] ∧ ∃ t, entry = name ++ ['-'] ++ t ∧ Guid.Hyphenated t guid) ∧
    ((¬ ∃ name gs, name ≠ [] ∧ Guid.Grouped gs ∧ entry = name ++ ['-'] ++ Text.joinWith ['-'] gs) →
      ∃ fault, decode entry = .error (.entry entry fault)) ∧
    decode entry ≠ .error (.entry entry .unreadableGuid) := by
  refine ⟨fun name guid => ?_, fun hno => ?_, fun herror => ?_⟩
  · rw [decode_eq_ok_iff]
    simp only [List.append_assoc, List.singleton_append]
    exact ⟨fun h => ⟨h.ne_nil, h.hyphenated⟩, fun h => ⟨h.1, h.2⟩⟩
  · rcases decode_cases entry with ⟨i, -, hs⟩ | ⟨fault, hf, -⟩
    · obtain ⟨t, ht, ⟨gs, hgs, rfl⟩, -⟩ := hs.hyphenated
      refine absurd ⟨i.name, gs, hs.ne_nil, hgs, ?_⟩ hno
      rw [ht, List.append_assoc]
      rfl
    · exact ⟨fault, hf⟩
  · rcases decode_cases entry with ⟨i, hi, -⟩ | ⟨fault, hf, hne⟩
    · rw [hi] at herror
      cases herror
    · rw [hf] at herror
      cases herror
      exact hne rfl

/-- A name of hyphens only before upper-case digits, and no name at all behind a leading hyphen. -/
theorem decode_accepts_hyphens :
    decode "---8BE4DF61-93CA-11D2-AA0D-00E098032B8C".toList =
      .ok ⟨['-', '-'], ⟨0x8be4df61, 0x93ca, 0x11d2, 0xaa0d00e098032b8c⟩⟩ ∧
    ∃ fault, decode "-8be4df61-93ca-11d2-aa0d-00e098032b8c".toList =
      .error (.entry "-8be4df61-93ca-11d2-aa0d-00e098032b8c".toList fault) := by
  constructor
  · refine ((decode_accepts_grammar _).1 _ _).2 ⟨by decide, "8BE4DF61-93CA-11D2-AA0D-00E098032B8C".toList, rfl, ?_, ?_⟩
    · refine ⟨["8BE4DF61".toList, "93CA".toList, "11D2".toList, "AA0D".toList, "00E098032B8C".toList], ?_, rfl⟩
      have hgroup {width : Nat} {t : Text} (hlen : t.length = width) (hall : t.all Numeral.isHexDigit = true) :
          Guid.IsGroup width t := ⟨hlen, List.all_eq_true.1 hall⟩
      exact ⟨hgroup rfl rfl, hgroup rfl rfl, hgroup rfl rfl, hgroup rfl rfl, hgroup rfl rfl⟩
    · decide +kernel
  · refine (decode_accepts_grammar _).2.1 ?_
    rintro ⟨name, gs, hname, hgs, heq⟩
    have hlen : 37 = (name ++ ['-'] ++ Text.joinWith ['-'] gs).length := congrArg List.length heq
    rw [List.length_append, List.length_append, hgs.length_joinWith, List.length_singleton] at hlen
    have hpos := List.length_pos_iff.2 hname
    omega

end EntryName
end FirmwareVars
