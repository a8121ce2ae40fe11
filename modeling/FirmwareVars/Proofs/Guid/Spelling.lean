import FirmwareVars.Guid
import FirmwareVars.Proofs.Numeral
import FirmwareVars.Proofs.Text
import FirmwareVars.Proofs.Utf8
/-!
# GUIDs in text, there and back

`Grouped` are the five groups of digits that a GUID may be written in, in either case of the letters.  A GUID is written
in such groups (`grouped_groups`), any such groups are read as a hyphenated GUID and not as another form
(`parse?_joinWith`), and the groups that a GUID is written in are read as that GUID (`parse?_spell`).  No groups are
left over: any five are those of a GUID in some case of the letters (`Grouped.ofGroups?_eq_some_iff`).
-/
namespace FirmwareVars
namespace Guid

/-! ## Groups of digits -/

/-- A run of exactly `width` hexadecimal digits. -/
structure IsGroup (width : Nat) (t : Text) : Prop where
  length : t.length = width
  digits : ∀ c ∈ t, Numeral.isHexDigit c = true

/-- Five groups of the right widths. -/
inductive Grouped : List Text → Prop
  | mk {a b c d e : Text} (ha : IsGroup 8 a) (hb : IsGroup 4 b) (hc : IsGroup 4 c) (hd : IsGroup 4 d)
      (he : IsGroup 12 e) : Grouped [a, b, c, d, e]

theorem isGroup_spellFixed (width n : Nat) : IsGroup width (Numeral.spellFixed 16 width n) :=
  ⟨Numeral.length_spellFixed 16 width n, fun _ hc => Numeral.isHexDigit_of_mem_spellFixed hc⟩

theorem Grouped.isHexDigit {gs : List Text} (h : Grouped gs) :
    ∀ g ∈ gs, ∀ c ∈ g, Numeral.isHexDigit c = true := by
  cases h with
  | mk ha hb hc hd he =>
    intro g hg
    simp only [List.mem_cons, List.not_mem_nil, or_false] at hg
    rcases hg with rfl | rfl | rfl | rfl | rfl
    · exact ha.digits
    · exact hb.digits
    · exact hc.digits
    · exact hd.digits
    · exact he.digits

theorem Grouped.mem_joinWith {gs : List Text} (h : Grouped gs) {c : Char} (hc : c ∈ Text.joinWith ['-'] gs) :
    c = '-' ∨ Numeral.isHexDigit c = true := by
  rcases Text.mem_joinWith hc with hsep | ⟨group, hgroup, hin⟩
  · exact .inl (List.mem_singleton.1 hsep)
  · exact .inr (h.isHexDigit group hgroup c hin)

theorem Grouped.length_eq {gs : List Text} (h : Grouped gs) : gs.length = 5 := by
  cases h
  rfl

theorem Grouped.hyphen_notMem {gs : List Text} (h : Grouped gs) : ∀ g ∈ gs, '-' ∉ g := by
  intro g hg hm
  have hdigit := h.isHexDigit g hg '-' hm
  revert hdigit
  decide

theorem Grouped.splitOn_joinWith {gs : List Text} (h : Grouped gs) : Text.splitOn '-' (Text.joinWith ['-'] gs) = gs :=
  Text.splitOn_joinWith (List.ne_nil_of_length_pos (by rw [h.length_eq]; decide)) h.hyphen_notMem

theorem Grouped.length_joinWith {gs : List Text} (h : Grouped gs) : (Text.joinWith ['-'] gs).length = 36 := by
  cases h with
  | mk ha hb hc hd he =>
    simp only [Text.joinWith, List.length_append, List.length_singleton, ha.length, hb.length, hc.length, hd.length,
      he.length]

/-- The groups begin with a digit. -/
theorem Grouped.joinWith_eq_cons {gs : List Text} (h : Grouped gs) :
    ∃ c t, Text.joinWith ['-'] gs = c :: t ∧ Numeral.isHexDigit c = true := by
  cases h with
  | @mk a b c d e ha hb hc hd he =>
    cases a with
    | nil => exact absurd ha.length (by decide)
    | cons x a => exact ⟨x, _, rfl, ha.digits x List.mem_cons_self⟩

/-! ## Reading -/

/-- A digit is neither the letter that begins the URN form nor the brace that begins the braced one. -/
theorem toLower_ne_of_isHexDigit {c : Char} (h : Numeral.isHexDigit c = true) : c.toLower ≠ 'u' ∧ c ≠ '\x7b' := by
  have hall : ∀ n < 103, Numeral.isHexDigit (Char.ofNat n) = true →
      (Char.ofNat n).toLower ≠ 'u' ∧ Char.ofNat n ≠ '\x7b' := by decide
  have hn : c.toNat < 103 := by
    have := Numeral.isHexDigit_iff.1 h
    omega
  have hc := hall c.toNat hn
  rw [Char.ofNat_toNat] at hc
  exact hc h

/-- **Groups of digits are read as the hyphenated form.** -/
theorem parse?_joinWith {gs : List Text} (h : Grouped gs) : parse? (Text.joinWith ['-'] gs) = ofGroups? gs := by
  obtain ⟨c, t, ht, hc⟩ := h.joinWith_eq_cons
  obtain ⟨hu, hbrace⟩ := toLower_ne_of_isHexDigit hc
  have hurn : Text.sameLetters ((Text.joinWith ['-'] gs).take urnMark.length) urnMark = false := by
    rw [ht, Text.sameLetters, beq_eq_false_iff_ne]
    intro heq
    exact hu (List.cons.inj heq).1
  have hbraced : unbraced? (Text.joinWith ['-'] gs) = none := by
    rw [ht, unbraced?]
    intro rest hrest
    exact hbrace (List.cons.inj hrest).1
  have hlen : ¬ (Text.joinWith ['-'] gs).length = 32 := by
    rw [h.length_joinWith]
    decide
  unfold parse?
  rw [if_neg hlen, hurn, hbraced]
  simp only [Bool.false_eq_true, if_false, ofHyphenated?, h.splitOn_joinWith]

/-! ## Writing -/

theorem groupValue?_spellFixed {width : Nat} (hw : 0 < width) (n : Nat) :
    groupValue? width (Numeral.spellFixed 16 width n) = some (n % 16 ^ width) := by
  rw [groupValue?, if_pos (Numeral.length_spellFixed 16 width n),
    Numeral.read?_spellFixed (by decide) (Nat.le_refl 16) hw]

theorem groups_eq (g : Guid) : g.groups =
    [Numeral.spellFixed 16 8 g.data1.toNat, Numeral.spellFixed 16 4 g.data2.toNat,
      Numeral.spellFixed 16 4 g.data3.toNat, Numeral.spellFixed 16 4 (g.data4.toNat / 16 ^ 12),
      Numeral.spellFixed 16 12 g.data4.toNat] := by
  have hlast := Numeral.spellFixed_add 16 4 12 g.data4.toNat
  have h4 := Numeral.length_spellFixed 16 4 (g.data4.toNat / 16 ^ 12)
  simp only [groups]
  rw [hlast, List.take_left' h4, List.drop_left' h4]

theorem grouped_groups (g : Guid) : Grouped g.groups := by
  rw [groups_eq]
  exact ⟨isGroup_spellFixed 8 _, isGroup_spellFixed 4 _, isGroup_spellFixed 4 _, isGroup_spellFixed 4 _,
    isGroup_spellFixed 12 _⟩

theorem ofGroups?_groups (g : Guid) : ofGroups? g.groups = some g := by
  have h1 := g.data1.toNat_lt
  have h2 := g.data2.toNat_lt
  have h3 := g.data3.toNat_lt
  have h4 := g.data4.toNat_lt
  have e1 : g.data1.toNat % 16 ^ 8 = g.data1.toNat := Nat.mod_eq_of_lt h1
  have e2 : g.data2.toNat % 16 ^ 4 = g.data2.toNat := Nat.mod_eq_of_lt h2
  have e3 : g.data3.toNat % 16 ^ 4 = g.data3.toNat := Nat.mod_eq_of_lt h3
  have e4 : g.data4.toNat / 16 ^ 12 % 16 ^ 4 * 0x1000000000000 + g.data4.toNat % 16 ^ 12 = g.data4.toNat := by omega
  rw [groups_eq, ofGroups?]
  simp only [groupValue?_spellFixed (show 0 < 8 by decide), groupValue?_spellFixed (show 0 < 4 by decide),
    groupValue?_spellFixed (show 0 < 12 by decide)]
  rw [e1, e2, e3, e4, UInt32.ofNat_toNat, UInt16.ofNat_toNat, UInt16.ofNat_toNat, UInt64.ofNat_toNat]

@[simp] theorem length_spell (g : Guid) : g.spell.length = 36 := (grouped_groups g).length_joinWith

theorem mem_spell {g : Guid} {c : Char} (h : c ∈ g.spell) : c = '-' ∨ Numeral.isHexDigit c = true :=
  (grouped_groups g).mem_joinWith h

/-- **A GUID is read back from its text.** -/
theorem parse?_spell (g : Guid) : parse? g.spell = some g := by
  rw [spell, parse?_joinWith (grouped_groups g), ofGroups?_groups]

theorem spell_injective {g g' : Guid} (h : g.spell = g'.spell) : g = g' := by
  have hparse := parse?_spell g
  rw [h, parse?_spell] at hparse
  exact (Option.some.inj hparse).symm

/-! ## Either case of the digits -/

/-- The text is the GUID's, with digits in either case. -/
structure Hyphenated (t : Text) (g : Guid) : Prop where
  grouped : ∃ gs, Grouped gs ∧ t = Text.joinWith ['-'] gs
  lower : t.map Char.toLower = g.spell

theorem IsGroup.groupValue? {width : Nat} {t : Text} (h : IsGroup width t) (hw : 0 < width) :
    ∃ n < 16 ^ width, Guid.groupValue? width t = some n ∧ Numeral.spellFixed 16 width n = t.map Char.toLower := by
  obtain ⟨rfl, hdigits⟩ := h
  obtain ⟨n, hn, hread, hspell⟩ := Numeral.exists_readFrom? hdigits
  refine ⟨n, hn, ?_, hspell⟩
  rw [Guid.groupValue?, if_pos rfl, Numeral.read?_of_ne_nil (List.ne_nil_of_length_pos hw), hread]

/-- **Groups of digits are those of a GUID**, up to the case of the digits. -/
theorem Grouped.exists_ofGroups? {gs : List Text} (h : Grouped gs) :
    ∃ g, ofGroups? gs = some g ∧ g.groups = gs.map (List.map Char.toLower) := by
  cases h with
  | mk ha hb hc hd he =>
    obtain ⟨a, hla, hra, hsa⟩ := ha.groupValue? (by decide)
    obtain ⟨b, hlb, hrb, hsb⟩ := hb.groupValue? (by decide)
    obtain ⟨c, hlc, hrc, hsc⟩ := hc.groupValue? (by decide)
    obtain ⟨d, hld, hrd, hsd⟩ := hd.groupValue? (by decide)
    obtain ⟨e, hle, hre, hse⟩ := he.groupValue? (by decide)
    have na : (UInt32.ofNat a).toNat = a := UInt32.toNat_ofNat_of_lt' hla
    have nb : (UInt16.ofNat b).toNat = b := UInt16.toNat_ofNat_of_lt' hlb
    have nc : (UInt16.ofNat c).toNat = c := UInt16.toNat_ofNat_of_lt' hlc
    have hde : d * 0x1000000000000 + e < UInt64.size := by
      change _ < 2 ^ 64
      omega
    have nde := UInt64.toNat_ofNat_of_lt' hde
    have hdiv : (d * 0x1000000000000 + e) / 16 ^ 12 = d := by omega
    have hmod : (d * 0x1000000000000 + e) % 16 ^ 12 = e := by omega
    have hlast : Numeral.spellFixed 16 12 (d * 0x1000000000000 + e) = Numeral.spellFixed 16 12 e := by
      rw [← Numeral.spellFixed_mod, hmod]
    refine ⟨⟨.ofNat a, .ofNat b, .ofNat c, .ofNat (d * 0x1000000000000 + e)⟩, ?_, ?_⟩
    · simp only [ofGroups?, hra, hrb, hrc, hrd, hre]
    · rw [groups_eq, na, nb, nc, nde, hdiv, hlast, hsa, hsb, hsc, hsd, hse]
      rfl

theorem Grouped.ofGroups?_eq_some_iff {gs : List Text} (h : Grouped gs) {g : Guid} :
    ofGroups? gs = some g ↔ (Text.joinWith ['-'] gs).map Char.toLower = g.spell := by
  obtain ⟨g', hg', hgroups⟩ := h.exists_ofGroups?
  have hspell : (Text.joinWith ['-'] gs).map Char.toLower = g'.spell := by
    rw [Text.map_joinWith, spell, hgroups]
    rfl
  rw [hg', hspell, Option.some.injEq]
  exact ⟨congrArg spell, spell_injective⟩

theorem Hyphenated.length {t : Text} {g : Guid} (h : Hyphenated t g) : t.length = 36 := by
  obtain ⟨gs, hgs, rfl⟩ := h.grouped
  exact hgs.length_joinWith

theorem Hyphenated.length_encode {t : Text} {g : Guid} (h : Hyphenated t g) : (Utf8.encode t).length = 36 := by
  rw [Utf8.length_encode_of_ascii, h.length]
  obtain ⟨gs, hgs, rfl⟩ := h.grouped
  intro c hc
  rcases hgs.mem_joinWith hc with rfl | hdigit
  · decide
  · rw [Numeral.isHexDigit_iff] at hdigit
    omega

theorem hyphenated_spell (g : Guid) : Hyphenated g.spell g :=
  ⟨⟨_, grouped_groups g, rfl⟩, (grouped_groups g).ofGroups?_eq_some_iff.1 (ofGroups?_groups g)⟩

end Guid
end FirmwareVars
