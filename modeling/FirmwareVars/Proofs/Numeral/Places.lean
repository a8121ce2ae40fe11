import FirmwareVars.Proofs.Numeral
import Mathlib.Data.List.Forall2
import Mathlib.Data.Nat.Digits.Defs
import Mathlib.Tactic.Ring
/-!
# Digits in their places

`Denotes` is positional notation, said of a text and its digits from left to right and without reading it.  Reading
gives a number exactly when the text denotes it (`read?_eq_some_iff`), whatever its size.
-/
namespace FirmwareVars
namespace Numeral

/-- The character is the digit of that value, in lower or in upper case. -/
def IsDigitOf (base : Nat) (c : Char) (d : Nat) : Prop :=
  d < base ∧ ("0123456789abcdef".toList[d]? = some c ∨ "0123456789ABCDEF".toList[d]? = some c)

/-- The text is a run of digits that stands for the number, the most significant digit first. -/
def Denotes (base : Nat) (t : Text) (n : Nat) : Prop :=
  t ≠ [] ∧ ∃ ds : List Nat, List.Forall₂ (IsDigitOf base) t ds ∧ n = Nat.ofDigits base ds.reverse

/-- The text is such a run after at most one plus sign. -/
def SignedDenotes (base : Nat) (t : Text) (n : Nat) : Prop :=
  ∃ sign digits, t = sign ++ digits ∧ (sign = [] ∨ sign = ['+']) ∧ Denotes base digits n

theorem digit?_eq_some_iff {base d : Nat} {c : Char} : digit? base c = some d ↔ IsDigitOf base c d := by
  have hbase : digit? base c = some d ↔ d < base ∧ digit? 16 c = some d := by
    unfold digit?
    simp only [Option.ite_none_right_eq_some, Option.some.injEq]
    constructor
    · rintro ⟨⟨hlt, hsmall⟩, rfl⟩
      exact ⟨hlt, ⟨hsmall, hsmall⟩, rfl⟩
    · rintro ⟨hlt, ⟨hsmall, -⟩, rfl⟩
      exact ⟨⟨hlt, hsmall⟩, rfl⟩
  rw [hbase, IsDigitOf]
  refine and_congr_right fun _ => ?_
  have hall : ∀ n < 103, ∀ d < 16, digit? 16 (Char.ofNat n) = some d ↔
      "0123456789abcdef".toList[d]? = some (Char.ofNat n) ∨ "0123456789ABCDEF".toList[d]? = some (Char.ofNat n) := by
    decide +kernel
  have hlower : ("0123456789abcdef".toList.all fun c => c.toNat < 103) = true := by decide
  have hupper : ("0123456789ABCDEF".toList.all fun c => c.toNat < 103) = true := by decide
  constructor
  · intro h
    have hhex : isHexDigit c = true := by rw [isHexDigit, h]; rfl
    have hn : c.toNat < 103 := by
      have := isHexDigit_iff.1 hhex
      omega
    have hc := hall c.toNat hn d (digitChar_of_digit? h).1
    rw [Char.ofNat_toNat] at hc
    exact hc.1 h
  · intro h
    have hd : d < 16 := by
      rcases h with h | h <;> exact (List.getElem?_eq_some_iff.1 h).1
    have hn : c.toNat < 103 := by
      rcases h with h | h
      · exact of_decide_eq_true (List.all_eq_true.1 hlower c (List.mem_of_getElem? h))
      · exact of_decide_eq_true (List.all_eq_true.1 hupper c (List.mem_of_getElem? h))
    have hc := hall c.toNat hn d hd
    rw [Char.ofNat_toNat] at hc
    exact hc.2 h

/-- **Reading goes through the places**: what was read so far moves up by one place with every digit. -/
theorem readFrom?_eq_some_iff {base n : Nat} : ∀ {t : Text} {value : Nat}, readFrom? base value t = some n ↔
    ∃ ds : List Nat, List.Forall₂ (IsDigitOf base) t ds ∧ n = value * base ^ t.length + Nat.ofDigits base ds.reverse
  | [], value => by
    simp only [readFrom?, List.forall₂_nil_left_iff, exists_eq_left, List.length_nil, List.reverse_nil, Nat.ofDigits_nil,
      Nat.pow_zero, Nat.mul_one, Nat.add_zero, Option.some.injEq, eq_comm]
  | c :: t, value => by
    have hplace (d : Nat) (ds : List Nat) (hlen : t.length = ds.length) :
        (value * base + d) * base ^ t.length + Nat.ofDigits base ds.reverse =
          value * base ^ (c :: t).length + Nat.ofDigits base (d :: ds).reverse := by
      rw [List.reverse_cons, Nat.ofDigits_append, Nat.ofDigits_singleton, List.length_reverse, List.length_cons, hlen]
      ring
    rw [readFrom?]
    cases hc : digit? base c with
    | none =>
      simp only [reduceCtorEq, false_iff, not_exists, not_and]
      intro ds hds
      cases hds with
      | cons hd =>
        rw [digit?_eq_some_iff.2 hd] at hc
        cases hc
    | some d =>
      simp only
      rw [readFrom?_eq_some_iff]
      constructor
      · rintro ⟨ds, hds, rfl⟩
        exact ⟨d :: ds, .cons (digit?_eq_some_iff.1 hc) hds, hplace d ds hds.length_eq⟩
      · rintro ⟨ds, hds, rfl⟩
        cases hds with
        | @cons _ d' _ ds hd hds =>
          rw [digit?_eq_some_iff.2 hd] at hc
          cases hc
          exact ⟨ds, hds, (hplace _ ds hds.length_eq).symm⟩

theorem read?_eq_some_iff {base n : Nat} {t : Text} : read? base t = some n ↔ Denotes base t n := by
  rw [Denotes]
  by_cases ht : t = []
  · simp [ht, read?]
  · rw [read?_of_ne_nil ht, readFrom?_eq_some_iff]
    simp [ht]

theorem Denotes.exists_digit? {base n : Nat} {t : Text} (h : Denotes base t n) {c : Char} (hc : c ∈ t) :
    ∃ d, digit? base c = some d := by
  obtain ⟨-, ds, hds, -⟩ := h
  have hall : List.Forall₂ (fun c d => (∃ d, digit? base c = some d) ∧ IsDigitOf base c d) t ds :=
    hds.imp fun _ _ hd => ⟨⟨_, digit?_eq_some_iff.2 hd⟩, hd⟩
  exact ((List.forall₂_and_left _ _).1 hall).1 c hc

theorem isHexDigit_of_digit? {base d : Nat} {c : Char} (h : digit? base c = some d) : isHexDigit c = true := by
  have hdigit := (digit?_eq_some_iff.1 h).2
  have hsmall : d < 16 := by
    rcases hdigit with h | h <;> exact (List.getElem?_eq_some_iff.1 h).1
  rw [isHexDigit, digit?_eq_some_iff.2 ⟨hsmall, hdigit⟩]
  rfl

theorem Denotes.isHexDigit {base n : Nat} {t : Text} (h : Denotes base t n) : ∀ c ∈ t, isHexDigit c = true := by
  intro c hc
  obtain ⟨d, hd⟩ := h.exists_digit? hc
  exact isHexDigit_of_digit? hd

theorem readSigned?_eq_some_iff {base n : Nat} {t : Text} : readSigned? base t = some n ↔ SignedDenotes base t n := by
  constructor
  · intro h
    unfold readSigned? at h
    split at h
    next digits => exact ⟨['+'], digits, rfl, .inr rfl, read?_eq_some_iff.1 h⟩
    next => exact ⟨[], t, rfl, .inl rfl, read?_eq_some_iff.1 h⟩
  · rintro ⟨sign, digits, rfl, rfl | rfl, h⟩
    · rw [List.nil_append, readSigned?_of_digits h.isHexDigit, read?_eq_some_iff.2 h]
    · exact read?_eq_some_iff.2 h

theorem readWord?_eq_some_iff {base : Nat} {t : Text} {w : UInt32} :
    readWord? base t = some w ↔ readSigned? base t = some w.toNat := by
  unfold readWord?
  cases readSigned? base t with
  | none => simp
  | some n =>
    simp only [Option.ite_none_right_eq_some, Option.some.injEq]
    constructor
    · rintro ⟨hn, rfl⟩
      exact (UInt32.toNat_ofNat_of_lt' hn).symm
    · rintro rfl
      exact ⟨w.toNat_lt_size, UInt32.ofNat_toNat⟩

theorem denotes_spell {base : Nat} (hmin : 2 ≤ base) (hbase : base ≤ 16) (n : Nat) : Denotes base (spell base n) n :=
  read?_eq_some_iff.1 (read?_spell hmin hbase n)

theorem isHexDigit_of_mem_spell {base : Nat} (hmin : 2 ≤ base) (hbase : base ≤ 16) {n : Nat} {c : Char}
    (h : c ∈ spell base n) : isHexDigit c = true :=
  (denotes_spell hmin hbase n).isHexDigit c h

/-- **A word is read back from its shortest numeral.** -/
theorem readWord?_spell {base : Nat} (hmin : 2 ≤ base) (hbase : base ≤ 16) (w : UInt32) :
    readWord? base (spell base w.toNat) = some w :=
  readWord?_eq_some_iff.2 (readSigned?_eq_some_iff.2 ⟨[], _, rfl, .inl rfl, denotes_spell hmin hbase w.toNat⟩)

theorem read?_zeros {base n : Nat} {t : Text} (hbase : 0 < base) (h : read? base t = some n) (k : Nat) :
    read? base (List.replicate k '0' ++ t) = some n := by
  have ht : t ≠ [] := (read?_eq_some_iff.1 h).1
  have hzero : digit? base '0' = some 0 := digit?_digitChar hbase (by decide)
  have hread : ∀ k : Nat, readFrom? base 0 (List.replicate k '0' ++ t) = readFrom? base 0 t := by
    intro k
    induction k with
    | zero => rfl
    | succ k ih => simpa only [List.replicate_succ, List.cons_append, readFrom?, hzero, Nat.zero_mul] using ih
  rw [read?_of_ne_nil (List.append_ne_nil_of_right_ne_nil _ ht), hread, ← read?_of_ne_nil ht, h]

end Numeral
end FirmwareVars
