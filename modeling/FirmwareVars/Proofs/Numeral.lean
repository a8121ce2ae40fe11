import FirmwareVars.Proofs.Text
import FirmwareVars.Text.Numeral
import Mathlib.Algebra.Ring.Nat
import Mathlib.Data.List.Induction
/-!
# Numerals, there and back

A numeral of fixed width is a run of that many digits (`length_spellFixed`, `isHexDigit_of_mem_spellFixed`), and is
read as the number that it was written for, when that fits the width (`read?_spellFixed`).  The shortest numeral is read
as its number whatever that is (`read?_spell`), and has lower-case digits and no zero in front (`toLower_of_mem_spell`,
`head?_spell_ne`).  Any run of digits is read as a number, and that number's numeral is the run in lower case
(`exists_readFrom?`).
-/
namespace FirmwareVars
namespace Numeral

/-! ## One digit -/

theorem toNat_digitChar {d : Nat} (h : d < 16) : (digitChar d).toNat = if d < 10 then 48 + d else 87 + d := by
  unfold digitChar
  split
  · exact Character.toNat_ofNat (by unfold Nat.isValidChar; omega)
  · exact Character.toNat_ofNat (by unfold Nat.isValidChar; omega)

/-- **A digit is read as its value.** -/
theorem digit?_digitChar {base d : Nat} (hd : d < base) (h : d < 16) : digit? base (digitChar d) = some d := by
  have hn := toNat_digitChar h
  unfold digit?
  by_cases h10 : d < 10
  · rw [if_pos h10] at hn
    simp only [hn, if_pos (show 48 ≤ 48 + d ∧ 48 + d ≤ 57 by omega), Nat.add_sub_cancel_left,
      if_pos (And.intro hd h)]
  · rw [if_neg h10] at hn
    simp only [hn, if_neg (show ¬ (48 ≤ 87 + d ∧ 87 + d ≤ 57) by omega),
      if_pos (show 97 ≤ 87 + d ∧ 87 + d ≤ 102 by omega), Nat.add_sub_cancel_left, if_pos (And.intro hd h)]

/-- A hexadecimal digit is a decimal digit or one of six letters. -/
theorem isHexDigit_iff {c : Char} : isHexDigit c = true ↔
    (48 ≤ c.toNat ∧ c.toNat ≤ 57) ∨ (97 ≤ c.toNat ∧ c.toNat ≤ 102) ∨ (65 ≤ c.toNat ∧ c.toNat ≤ 70) := by
  unfold isHexDigit digit?
  simp only
  by_cases h1 : 48 ≤ c.toNat ∧ c.toNat ≤ 57
  · rw [if_pos h1, if_pos (by omega)]
    exact ⟨fun _ => .inl h1, fun _ => rfl⟩
  by_cases h2 : 97 ≤ c.toNat ∧ c.toNat ≤ 102
  · rw [if_neg h1, if_pos h2, if_pos (by omega)]
    exact ⟨fun _ => .inr (.inl h2), fun _ => rfl⟩
  by_cases h3 : 65 ≤ c.toNat ∧ c.toNat ≤ 70
  · rw [if_neg h1, if_neg h2, if_pos h3, if_pos (by omega)]
    exact ⟨fun _ => .inr (.inr h3), fun _ => rfl⟩
  · rw [if_neg h1, if_neg h2, if_neg h3, if_neg (by omega)]
    exact ⟨fun h => (by cases h), fun h => (by omega)⟩

theorem isHexDigit_digitChar {d : Nat} (h : d < 16) : isHexDigit (digitChar d) = true := by
  rw [isHexDigit, digit?_digitChar h h]
  rfl

/-- The digit of a value that was read is the digit read, in lower case. -/
theorem digitChar_of_digit? {c : Char} {d : Nat} (h : digit? 16 c = some d) : d < 16 ∧ digitChar d = c.toLower := by
  have hall : ∀ n < 103, ∀ d ∈ digit? 16 (Char.ofNat n), d < 16 ∧ digitChar d = (Char.ofNat n).toLower := by decide
  have hhex : isHexDigit c = true := by rw [isHexDigit, h]; rfl
  have hn : c.toNat < 103 := by
    have := isHexDigit_iff.1 hhex
    omega
  have hc := hall c.toNat hn
  rw [Char.ofNat_toNat] at hc
  exact hc d h

/-! ## Numerals of fixed width -/

@[simp] theorem length_spellFixed (base : Nat) : ∀ width n : Nat, (spellFixed base width n).length = width
  | 0, _ => rfl
  | width + 1, n => by
    rw [spellFixed, List.length_append, length_spellFixed base width, List.length_singleton]

theorem isHexDigit_of_mem_spellFixed {c : Char} : ∀ {width n : Nat}, c ∈ spellFixed 16 width n → isHexDigit c = true
  | 0, _, h => by cases h
  | width + 1, n, h => by
    rw [spellFixed, List.mem_append, List.mem_singleton] at h
    rcases h with h | rfl
    · exact isHexDigit_of_mem_spellFixed h
    · exact isHexDigit_digitChar (Nat.mod_lt n (by decide))

theorem readFrom?_append {base : Nat} : ∀ (a b : Text) (value : Nat),
    readFrom? base value (a ++ b) = (readFrom? base value a).bind (readFrom? base · b)
  | [], _, _ => rfl
  | c :: a, b, value => by
    rw [List.cons_append, readFrom?, readFrom?]
    cases digit? base c with
    | none => rfl
    | some d => exact readFrom?_append a b (value * base + d)

theorem readFrom?_spellFixed {base : Nat} (hpos : 0 < base) (hbase : base ≤ 16) : ∀ width n value : Nat,
    readFrom? base value (spellFixed base width n) = some (value * base ^ width + n % base ^ width)
  | 0, n, value => by rw [spellFixed, readFrom?, Nat.pow_zero, Nat.mod_one, Nat.mul_one, Nat.add_zero]
  | width + 1, n, value => by
    have hlt : n % base < base := Nat.mod_lt n hpos
    have hdigit := digit?_digitChar hlt (by omega)
    have hsum : (value * base ^ width + n / base % base ^ width) * base + n % base =
        value * base ^ (width + 1) + n % base ^ (width + 1) := by
      rw [Nat.pow_succ, Nat.mul_comm (base ^ width) base, Nat.mod_mul, Nat.add_mul, Nat.mul_assoc,
        Nat.mul_comm (base ^ width) base, Nat.mul_comm (n / base % base ^ width) base]
      omega
    rw [spellFixed, readFrom?_append, readFrom?_spellFixed hpos hbase width (n / base), Option.bind_some]
    simp only [readFrom?, hdigit, hsum]

theorem read?_of_ne_nil {base : Nat} {t : Text} (h : t ≠ []) : read? base t = readFrom? base 0 t := by
  cases t with
  | nil => exact absurd rfl h
  | cons c t => rfl

/-- **A number is read back from its numeral**, without what does not fit the width. -/
theorem read?_spellFixed {base width : Nat} (hpos : 0 < base) (hbase : base ≤ 16) (hw : 0 < width) (n : Nat) :
    read? base (spellFixed base width n) = some (n % base ^ width) := by
  have hne : spellFixed base width n ≠ [] := List.ne_nil_of_length_pos (by rw [length_spellFixed]; exact hw)
  rw [read?_of_ne_nil hne, readFrom?_spellFixed hpos hbase, Nat.zero_mul, Nat.zero_add]

/-- The first digits of a numeral are those of the number without its last ones. -/
theorem spellFixed_add (base : Nat) : ∀ a b n : Nat,
    spellFixed base (a + b) n = spellFixed base a (n / base ^ b) ++ spellFixed base b n
  | a, 0, n => by rw [Nat.add_zero, Nat.pow_zero, Nat.div_one, spellFixed.eq_1 base n, List.append_nil]
  | a, b + 1, n => by
    rw [← Nat.add_assoc, spellFixed, spellFixed_add base a b (n / base), spellFixed, List.append_assoc,
      Nat.div_div_eq_div_mul, Nat.pow_succ, Nat.mul_comm base]

theorem spellFixed_mod (base : Nat) : ∀ width n : Nat, spellFixed base width (n % base ^ width) = spellFixed base width n
  | 0, _ => rfl
  | width + 1, n => by
    have hlast : n % base ^ (width + 1) % base = n % base := Nat.mod_mod_of_dvd n (Nat.dvd_mul_left base (base ^ width))
    have hrest : n % base ^ (width + 1) / base = n / base % base ^ width := by
      rw [Nat.pow_succ, Nat.mul_comm, Nat.mod_mul_right_div_self]
    rw [spellFixed, hlast, hrest, spellFixed_mod base width, spellFixed]

/-- **A run of digits is read as a number of that width, and its numeral is the run in lower case.** -/
theorem exists_readFrom? {t : Text} (h : ∀ c ∈ t, isHexDigit c = true) :
    ∃ n < 16 ^ t.length, readFrom? 16 0 t = some n ∧ spellFixed 16 t.length n = t.map Char.toLower := by
  induction t using List.reverseRecOn with
  | nil => exact ⟨0, by decide, rfl, rfl⟩
  | append_singleton t c ih =>
    obtain ⟨n, hn, hread, hspell⟩ := ih fun c' hc' => h c' (List.mem_append_left _ hc')
    obtain ⟨d, hd⟩ := Option.isSome_iff_exists.1 (h c (by simp))
    obtain ⟨hlt, hchar⟩ := digitChar_of_digit? hd
    have hdiv : (n * 16 + d) / 16 = n := by omega
    have hmod : (n * 16 + d) % 16 = d := by omega
    refine ⟨n * 16 + d, ?_, ?_, ?_⟩
    · rw [List.length_append, List.length_singleton, Nat.pow_succ]
      omega
    · simp [readFrom?_append, hread, readFrom?, hd]
    · simp [spellFixed, hdiv, hmod, hspell, hchar]

theorem readSigned?_of_digits {base : Nat} {t : Text} (h : ∀ c ∈ t, isHexDigit c = true) :
    readSigned? base t = read? base t := by
  unfold readSigned?
  split
  next digits =>
    have hplus : isHexDigit '+' = false := by decide
    rw [h '+' List.mem_cons_self] at hplus
    cases hplus
  next => rfl

/-- **A word is read back from its eight digits.** -/
theorem readWord?_spellFixed (w : UInt32) : readWord? 16 (spellFixed 16 8 w.toNat) = some w := by
  have hlt : w.toNat < 16 ^ 8 := w.toNat_lt
  have hread : readSigned? 16 (spellFixed 16 8 w.toNat) = some w.toNat := by
    rw [readSigned?_of_digits fun _ => isHexDigit_of_mem_spellFixed, read?_spellFixed (by decide) (by decide) (by decide),
      Nat.mod_eq_of_lt hlt]
  rw [readWord?, hread]
  simp only [w.toNat_lt_size, if_true, UInt32.ofNat_toNat]

/-! ## Shortest numerals -/

theorem spell_ne_nil (base n : Nat) : spell base n ≠ [] := by
  rw [spell]
  split
  · exact List.cons_ne_nil _ _
  · exact List.concat_ne_nil _ _

theorem readFrom?_spell {base : Nat} (hmin : 2 ≤ base) (hbase : base ≤ 16) (n : Nat) :
    readFrom? base 0 (spell base n) = some n := by
  induction n using Nat.strongRecOn with
  | ind n ih =>
    rw [spell]
    split
    next hsmall =>
      have hlt : n < base := by omega
      have hdigit := digit?_digitChar hlt (by omega)
      simp only [readFrom?, hdigit, Nat.zero_mul, Nat.zero_add]
    next hlarge =>
      have hlt : n % base < base := Nat.mod_lt n (by omega)
      have hdigit := digit?_digitChar hlt (by omega)
      have hrest := ih (n / base) (Nat.div_lt_self (by omega) (by omega))
      rw [readFrom?_append, hrest, Option.bind_some]
      simp only [readFrom?, hdigit, Nat.div_add_mod']

theorem read?_spell {base : Nat} (hmin : 2 ≤ base) (hbase : base ≤ 16) (n : Nat) : read? base (spell base n) = some n := by
  rw [read?_of_ne_nil (spell_ne_nil base n), readFrom?_spell hmin hbase]

theorem read?_decimal (n : Nat) : read? 10 (decimal n) = some n := read?_spell (by decide) (by decide) n

theorem toLower_of_mem_spell {base : Nat} (hmin : 2 ≤ base) (hbase : base ≤ 16) (n : Nat) :
    ∀ c ∈ spell base n, c.toLower = c := by
  have hall : ∀ d < 16, (digitChar d).toLower = digitChar d := by decide
  induction n using Nat.strongRecOn with
  | ind n ih =>
    intro c hc
    rw [spell] at hc
    split at hc
    next hsmall =>
      rw [List.mem_singleton.1 hc]
      exact hall n (by omega)
    next hlarge =>
      have hlt : n % base < base := Nat.mod_lt n (by omega)
      rcases List.mem_append.1 hc with hc | hc
      · exact ih (n / base) (Nat.div_lt_self (by omega) (by omega)) c hc
      · rw [List.mem_singleton.1 hc]
        exact hall (n % base) (by omega)

/-- The shortest numeral of a number does not begin with a zero, unless the number is zero. -/
theorem head?_spell_ne {base : Nat} (hmin : 2 ≤ base) (hbase : base ≤ 16) {n : Nat} (hn : n ≠ 0) :
    (spell base n).head? ≠ some '0' := by
  have hall : ∀ d < 16, d ≠ 0 → digitChar d ≠ '0' := by decide
  induction n using Nat.strongRecOn with
  | ind n ih =>
    rw [spell]
    split
    next hsmall =>
      intro h
      exact hall n (by omega) hn (Option.some.inj h)
    next hlarge =>
      have hdiv : n / base ≠ 0 := by
        rw [Nat.div_ne_zero_iff]
        omega
      have hhead := ih (n / base) (Nat.div_lt_self (by omega) (by omega)) hdiv
      obtain ⟨c, t, ht⟩ := List.exists_cons_of_ne_nil (spell_ne_nil base (n / base))
      rw [ht] at hhead ⊢
      exact hhead

end Numeral
end FirmwareVars
