import FirmwareVars.Proofs.Attributes
import FirmwareVars.Proofs.Numeral.Places
/-!
# The grammar of attribute words

`Spells` says what a text for a number looks like, without trimming or reading it: blanks, perhaps `0x`, perhaps a plus
sign, digits of the base, and blanks again.  Reading accepts exactly the texts for numbers below `2 ^ 32`
(`parse_accepts_grammar`).
-/
namespace FirmwareVars

/-! ## Blanks around a text -/

namespace Text

theorem trim_append {front t back : Text} (hfront : ∀ c ∈ front, isBlank c = true)
    (hback : ∀ c ∈ back, isBlank c = true) (h : ∀ c ∈ t, isBlank c = false) (hne : t ≠ []) :
    trim (front ++ t ++ back) = t := by
  obtain ⟨c, u, rfl⟩ := List.exists_cons_of_ne_nil hne
  have hleft : trimLeft (front ++ (c :: u) ++ back) = (c :: u) ++ back := by
    rw [trimLeft, List.append_assoc, List.dropWhile_append_of_pos hfront, List.cons_append,
      List.dropWhile_cons_of_neg (by simp [h c List.mem_cons_self])]
  have hback' : ∀ c ∈ back.reverse, isBlank c = true := fun c hc => hback c (List.mem_reverse.1 hc)
  have ht := trim_of_notBlank h
  rw [trim, hleft, trimRight, List.reverse_append, List.dropWhile_append_of_pos hback']
  rwa [trim, trimLeft, List.dropWhile_cons_of_neg (by simp [h c List.mem_cons_self]), trimRight] at ht

/-- What trimming takes away are blanks. -/
theorem exists_trim (t : Text) : ∃ front back, t = front ++ trim t ++ back ∧ (∀ c ∈ front, isBlank c = true) ∧
    ∀ c ∈ back, isBlank c = true := by
  have hleft : t.takeWhile isBlank ++ trimLeft t = t := List.takeWhile_append_dropWhile
  have hright : trim t ++ ((trimLeft t).reverse.takeWhile isBlank).reverse = trimLeft t := by
    rw [trim, trimRight, ← List.reverse_append, List.takeWhile_append_dropWhile, List.reverse_reverse]
  refine ⟨t.takeWhile isBlank, ((trimLeft t).reverse.takeWhile isBlank).reverse, ?_,
    fun c hc => List.mem_takeWhile_imp hc, fun c hc => List.mem_takeWhile_imp (List.mem_reverse.1 hc)⟩
  rw [List.append_assoc, hright, hleft]

end Text

/-! ## Words as written by hand -/

namespace Attributes

open Numeral (SignedDenotes)

/-- A number as it is written, without blanks around it. -/
inductive Writes : Text → Nat → Prop
  | hexadecimal {mark t : Text} {n : Nat} (hmark : mark = "0x".toList ∨ mark = "0X".toList)
      (h : SignedDenotes 16 t n) : Writes (mark ++ t) n
  | decimal {t : Text} {n : Nat} (h : SignedDenotes 10 t n) : Writes t n

/-- A number with blanks around it. -/
def Spells (t : Text) (n : Nat) : Prop :=
  ∃ front u back, t = front ++ u ++ back ∧ (∀ c ∈ front, Text.isBlank c = true) ∧
    (∀ c ∈ back, Text.isBlank c = true) ∧ Writes u n

/-- The number of a text without blanks around it, whatever its size. -/
def value? (u : Text) : Option Nat :=
  match u with
  | '0' :: 'x' :: digits => Numeral.readSigned? 16 digits
  | '0' :: 'X' :: digits => Numeral.readSigned? 16 digits
  | digits => Numeral.readSigned? 10 digits

theorem parse?_eq_some_iff_value? {t : Text} {w : UInt32} :
    parse? t = some w ↔ value? (Text.trim t) = some w.toNat := by
  unfold parse?
  generalize Text.trim t = u
  split
  next => exact Numeral.readWord?_eq_some_iff
  next => exact Numeral.readWord?_eq_some_iff
  next hlower hupper => rw [value?.eq_3 u hlower hupper, Numeral.readWord?_eq_some_iff]

theorem mem_signed {base n : Nat} {t : Text} (h : SignedDenotes base t n) {c : Char} (hc : c ∈ t) :
    c = '+' ∨ ∃ d, Numeral.digit? base c = some d := by
  obtain ⟨sign, digits, rfl, hsign, hdigits⟩ := h
  rcases List.mem_append.1 hc with hc | hc
  · rcases hsign with rfl | rfl
    · cases hc
    · exact .inl (List.mem_singleton.1 hc)
  · exact .inr (hdigits.exists_digit? hc)

theorem value?_eq_some_iff {u : Text} {n : Nat} : value? u = some n ↔ Writes u n := by
  constructor
  · intro h
    unfold value? at h
    split at h
    next digits => exact @Writes.hexadecimal "0x".toList digits n (.inl rfl) (Numeral.readSigned?_eq_some_iff.1 h)
    next digits => exact @Writes.hexadecimal "0X".toList digits n (.inr rfl) (Numeral.readSigned?_eq_some_iff.1 h)
    next => exact .decimal (Numeral.readSigned?_eq_some_iff.1 h)
  · intro h
    cases h with
    | hexadecimal hmark h => rcases hmark with rfl | rfl <;> exact Numeral.readSigned?_eq_some_iff.2 h
    | decimal h =>
      have hletter (c : Char) (hc : c = 'x' ∨ c = 'X') : c ∉ u := by
        intro hmem
        have hnone : c ≠ '+' ∧ Numeral.digit? 10 c = none := by rcases hc with rfl | rfl <;> decide
        rcases mem_signed h hmem with hplus | ⟨d, hd⟩
        · exact hnone.1 hplus
        · rw [hnone.2] at hd
          cases hd
      unfold value?
      split
      next => exact absurd (by simp) (hletter 'x' (.inl rfl))
      next => exact absurd (by simp) (hletter 'X' (.inr rfl))
      next => exact Numeral.readSigned?_eq_some_iff.2 h

theorem Writes.unique {u : Text} {n n' : Nat} (h : Writes u n) (h' : Writes u n') : n = n' :=
  Option.some.inj ((value?_eq_some_iff.2 h).symm.trans (value?_eq_some_iff.2 h'))

theorem Writes.mem {u : Text} {n : Nat} (h : Writes u n) {c : Char} (hc : c ∈ u) :
    c = '+' ∨ c = 'x' ∨ c = 'X' ∨ Numeral.isHexDigit c = true := by
  have hsigned {base n : Nat} {t : Text} (ht : SignedDenotes base t n) (hc : c ∈ t) :
      c = '+' ∨ c = 'x' ∨ c = 'X' ∨ Numeral.isHexDigit c = true := by
    rcases mem_signed ht hc with hplus | ⟨d, hd⟩
    · exact .inl hplus
    · exact .inr (.inr (.inr (Numeral.isHexDigit_of_digit? hd)))
  cases h with
  | hexadecimal hmark h =>
    rcases List.mem_append.1 hc with hc | hc
    · rcases hmark with rfl | rfl
      · have hcase : c = '0' ∨ c = 'x' := by simpa using hc
        rcases hcase with rfl | rfl <;> simp [Numeral.isHexDigit, Numeral.digit?]
      · have hcase : c = '0' ∨ c = 'X' := by simpa using hc
        rcases hcase with rfl | rfl <;> simp [Numeral.isHexDigit, Numeral.digit?]
    · exact hsigned h hc
  | decimal h => exact hsigned h hc

theorem Writes.notBlank {u : Text} {n : Nat} (h : Writes u n) : ∀ c ∈ u, Text.isBlank c = false := by
  intro c hc
  rcases h.mem hc with rfl | rfl | rfl | hdigit
  · decide
  · decide
  · decide
  · exact Numeral.isBlank_of_isHexDigit hdigit

theorem Writes.ne_nil {u : Text} {n : Nat} (h : Writes u n) : u ≠ [] := by
  rintro rfl
  have hvalue := value?_eq_some_iff.2 h
  cases hvalue

/-- **Blanks around a number do not count.** -/
theorem spells_iff {t : Text} {n : Nat} : Spells t n ↔ Writes (Text.trim t) n := by
  constructor
  · rintro ⟨front, u, back, rfl, hfront, hback, h⟩
    rwa [Text.trim_append hfront hback h.notBlank h.ne_nil]
  · intro h
    obtain ⟨front, back, ht, hfront, hback⟩ := Text.exists_trim t
    exact ⟨front, Text.trim t, back, ht, hfront, hback, h⟩

theorem parse?_eq_some_iff {t : Text} {w : UInt32} : parse? t = some w ↔ Spells t w.toNat := by
  rw [parse?_eq_some_iff_value?, value?_eq_some_iff, spells_iff]

/-- **A text is refused when it is for no number, or for one that is too large**; none is taken for a smaller one. -/
theorem parse?_eq_none_iff {t : Text} : parse? t = none ↔ ∀ n, Spells t n → 2 ^ 32 ≤ n := by
  constructor
  · intro h n hn
    by_contra hsmall
    have hw : (UInt32.ofNat n).toNat = n := UInt32.toNat_ofNat_of_lt' (Nat.lt_of_not_le hsmall)
    rw [← hw, ← parse?_eq_some_iff, h] at hn
    cases hn
  · intro h
    rw [Option.eq_none_iff_forall_ne_some]
    intro w hw
    have := h _ (parse?_eq_some_iff.1 hw)
    have := w.toNat_lt
    omega

/-! ## Near misses -/

/-- Trimmed texts that are almost numbers. -/
inductive NearMiss : Text → Prop
  | empty : NearMiss []
  | sign : NearMiss ['+']
  | minus {u : Text} (h : '-' ∈ u) : NearMiss u
  | mark {u : Text} (h : u = "0x".toList ∨ u = "0X".toList) : NearMiss u
  | signedMark {u : Text} (h : u = "0x+".toList ∨ u = "0X+".toList) : NearMiss u
  | signBefore {mark u : Text} (h : mark = "0x".toList ∨ mark = "0X".toList) : NearMiss ('+' :: (mark ++ u))
  | blank {u : Text} {c : Char} (hc : c ∈ u) (h : Text.isBlank c = true) : NearMiss u

theorem NearMiss.not_writes {u : Text} (h : NearMiss u) (n : Nat) : ¬ Writes u n := by
  intro hw
  cases h with
  | empty => exact hw.ne_nil rfl
  | sign => cases value?_eq_some_iff.2 hw
  | minus h =>
    have hno : ¬ ('-' = '+' ∨ '-' = 'x' ∨ '-' = 'X' ∨ Numeral.isHexDigit '-' = true) := by decide
    exact hno (hw.mem h)
  | mark h => rcases h with rfl | rfl <;> cases value?_eq_some_iff.2 hw
  | signedMark h => rcases h with rfl | rfl <;> cases value?_eq_some_iff.2 hw
  | signBefore h =>
    have hvalue := value?_eq_some_iff.2 hw
    rcases h with rfl | rfl <;> cases hvalue
  | blank hc h =>
    rw [hw.notBlank _ hc] at h
    cases h

/-- **The grammar of attribute words.**  A text is read as a word exactly when it is the word's number with any blanks
around it: after `0x` or `0X` at most one plus sign and then hexadecimal digits in either case, or without that mark at
most one plus sign and then decimal digits.  A text for a number of more than 32 bits is refused, as is every text that
is for no number, near misses among them.  A word is read back from its eight hexadecimal digits and from its decimal
numeral, with any number of zeros in front. -/
theorem parse_accepts_grammar (t : Text) :
    (∀ w, parse? t = some w ↔ Spells t w.toNat) ∧
    (parse? t = none ↔ ∀ n, Spells t n → 2 ^ 32 ≤ n) ∧
    (NearMiss (Text.trim t) → parse? t = none) ∧
    ∀ w : UInt32, parse? (hex ⟨w⟩) = some w ∧ parse? (Numeral.decimal w.toNat) = some w ∧
      ∀ k, parse? ("0x".toList ++ (List.replicate k '0' ++ Numeral.spellFixed 16 8 w.toNat)) = some w ∧
        parse? (List.replicate k '0' ++ Numeral.decimal w.toNat) = some w := by
  have hblank {u : Text} {n : Nat} (h : Writes u n) : Spells u n :=
    ⟨[], u, [], by simp, by simp, by simp, h⟩
  have hhex (w : UInt32) (k : Nat) :
      parse? ("0x".toList ++ (List.replicate k '0' ++ Numeral.spellFixed 16 8 w.toNat)) = some w := by
    have hread : Numeral.read? 16 (Numeral.spellFixed 16 8 w.toNat) = some w.toNat := by
      have hlt : w.toNat < 16 ^ 8 := w.toNat_lt
      rw [Numeral.read?_spellFixed (by decide) (by decide) (by decide), Nat.mod_eq_of_lt hlt]
    have hdenotes := Numeral.read?_eq_some_iff.1 (Numeral.read?_zeros (by decide) hread k)
    exact parse?_eq_some_iff.2 (hblank (.hexadecimal (.inl rfl) ⟨[], _, rfl, .inl rfl, hdenotes⟩))
  have hdecimal (w : UInt32) (k : Nat) : parse? (List.replicate k '0' ++ Numeral.decimal w.toNat) = some w := by
    have hread := Numeral.read?_zeros (by decide) (Numeral.read?_decimal w.toNat) k
    exact parse?_eq_some_iff.2 (hblank (.decimal ⟨[], _, rfl, .inl rfl, Numeral.read?_eq_some_iff.1 hread⟩))
  refine ⟨fun w => parse?_eq_some_iff, parse?_eq_none_iff, fun h => ?_,
    fun w => ⟨hhex w 0, hdecimal w 0, fun k => ⟨hhex w k, hdecimal w k⟩⟩⟩
  rw [parse?_eq_none_iff]
  intro n hn
  exact absurd (spells_iff.1 hn) (h.not_writes n)

/-- The largest word after blanks and zeros, the number after it, and zero after a minus sign. -/
theorem parse_accepts_largest :
    Spells " 0X+00fFfFfFfF\n".toList 0xFFFFFFFF ∧ parse? " 0X+00fFfFfFfF\n".toList = some 0xFFFFFFFF ∧
    Spells "4294967296".toList 4294967296 ∧ parse? "4294967296".toList = none ∧
    NearMiss (Text.trim "-0".toList) ∧ parse? "-0".toList = none := by
  have hlargest : Spells " 0X+00fFfFfFfF\n".toList 0xFFFFFFFF :=
    spells_iff.2 (value?_eq_some_iff.1 (by decide +kernel))
  have hnext : Spells "4294967296".toList 4294967296 := spells_iff.2 (value?_eq_some_iff.1 (by decide +kernel))
  have hminus : NearMiss (Text.trim "-0".toList) := .minus (by decide +kernel)
  refine ⟨hlargest, ((parse_accepts_grammar _).1 0xFFFFFFFF).2 hlargest, hnext,
    (parse_accepts_grammar _).2.1.2 fun n hn => ?_, hminus, (parse_accepts_grammar _).2.2.1 hminus⟩
  rw [(spells_iff.1 hn).unique (spells_iff.1 hnext)]
  decide

end Attributes
end FirmwareVars
