import FirmwareVars.Attributes
import Mathlib.Data.Finset.BooleanAlgebra
import Mathlib.Data.Finset.SymmDiff
import Mathlib.Data.Fintype.Basic
/-!
# Words as sets of bits

A word is a set of the thirty-two bits (`bits`), and each set is that of exactly one word (`bits_bijective`).  The
operations on words are those on sets, for all thirty-two bits: none of them leaves out a bit that has no name.
-/
namespace FirmwareVars
namespace Attributes

open scoped symmDiff

/-- The bits that are set in a word. -/
def bits (w : UInt32) : Finset (Fin 32) := {i | w.toBitVec.getLsbD i = true}

variable {v w : UInt32} {i : Fin 32} {a b : Attributes}

@[simp] theorem mem_bits : i ∈ bits w ↔ w.toBitVec.getLsbD i = true := by
  simp [bits]

/-! ## Words -/

@[simp] theorem bits_zero : bits 0 = ∅ := by
  ext i
  simp

@[simp] theorem bits_or (v w : UInt32) : bits (v ||| w) = bits v ∪ bits w := by
  ext i
  simp

@[simp] theorem bits_and (v w : UInt32) : bits (v &&& w) = bits v ∩ bits w := by
  ext i
  simp

@[simp] theorem bits_not (w : UInt32) : bits (~~~w) = (bits w)ᶜ := by
  ext i
  simp

@[simp] theorem bits_xor (v w : UInt32) : bits (v ^^^ w) = bits v ∆ bits w := by
  ext i
  rw [Finset.mem_symmDiff, mem_bits, mem_bits, mem_bits, UInt32.toBitVec_xor, BitVec.getLsbD_xor]
  cases v.toBitVec.getLsbD i <;> cases w.toBitVec.getLsbD i <;> decide

theorem bits_injective : Function.Injective bits := by
  intro v w h
  apply UInt32.eq_of_toBitVec_eq
  apply BitVec.eq_of_getLsbD_eq
  intro i hi
  have hmem := Finset.ext_iff.1 h ⟨i, hi⟩
  rw [mem_bits, mem_bits] at hmem
  exact Bool.eq_iff_iff.2 hmem

theorem bits_twoPow (i : Fin 32) : bits ⟨BitVec.twoPow 32 i⟩ = {i} := by
  ext j
  simp [Fin.ext_iff, eq_comm]

/-- **Each set of bits is that of exactly one word.** -/
theorem bits_bijective : Function.Bijective bits := by
  refine ⟨bits_injective, fun s => ?_⟩
  induction s using Finset.induction_on with
  | empty => exact ⟨0, bits_zero⟩
  | insert i s _ ih =>
    obtain ⟨w, rfl⟩ := ih
    exact ⟨⟨BitVec.twoPow 32 i⟩ ||| w, by rw [bits_or, bits_twoPow, Finset.insert_eq]⟩

theorem bits_eq_empty_iff : bits w = ∅ ↔ w = 0 := by
  rw [← bits_zero, bits_injective.eq_iff]

theorem disjoint_bits_iff : Disjoint (bits v) (bits w) ↔ v &&& w = 0 := by
  rw [Finset.disjoint_iff_inter_eq_empty, ← bits_and, bits_eq_empty_iff]

theorem mem_bits_foldr : ∀ {ws : List UInt32}, i ∈ bits (ws.foldr (· ||| ·) 0) ↔ ∃ w ∈ ws, i ∈ bits w
  | [] => by simp
  | w :: ws => by
    rw [List.foldr_cons, bits_or, Finset.mem_union, mem_bits_foldr, List.exists_mem_cons_iff]

/-! ## Attributes -/

/-- Every bit may be set, those without a name too. -/
theorem bits_known : bits known = Finset.univ := by
  have hall : ∀ i : Fin 32, known.toBitVec.getLsbD i = true := by decide
  exact Finset.eq_univ_iff_forall.2 fun i => mem_bits.2 (hall i)

theorem and_known (w : UInt32) : w &&& known = w := by
  apply bits_injective
  rw [bits_and, bits_known, Finset.inter_univ]

theorem truncate_eq (w : UInt32) : truncate w = ⟨w⟩ := by
  rw [truncate, and_known]

theorem ofWord?_eq (w : UInt32) : ofWord? w = some ⟨w⟩ := by
  have hnone : w &&& ~~~known = 0 := by
    rw [← bits_eq_empty_iff, bits_and, bits_not, bits_known, Finset.compl_univ, Finset.inter_empty]
  rw [ofWord?, if_pos hnone]

theorem bits_union (a b : Attributes) : bits (a.union b).word = bits a.word ∪ bits b.word := bits_or _ _

theorem bits_inter (a b : Attributes) : bits (a.inter b).word = bits a.word ∩ bits b.word := bits_and _ _

theorem bits_diff (a b : Attributes) : bits (a.diff b).word = bits a.word \ bits b.word := by
  rw [diff, bits_and, bits_not, Finset.sdiff_eq_inter_compl]

theorem bits_symmDiff (a b : Attributes) : bits (a.symmDiff b).word = bits a.word ∆ bits b.word := bits_xor _ _

theorem bits_complement (a : Attributes) : bits a.complement.word = (bits a.word)ᶜ := by
  rw [complement, truncate_eq, bits_not]

theorem complement_complement (a : Attributes) : a.complement.complement = a := by
  have hbits : bits a.complement.complement.word = bits a.word := by
    rw [bits_complement, bits_complement, compl_compl]
  exact congrArg Attributes.mk (bits_injective hbits)

theorem contains_iff : a.contains b = true ↔ bits b.word ⊆ bits a.word := by
  rw [contains, beq_iff_eq, ← bits_injective.eq_iff, bits_and, Finset.inter_eq_right]

theorem contains_mk_iff : a.contains ⟨w⟩ = true ↔ bits w ⊆ bits a.word := contains_iff

theorem intersects_iff : a.intersects b = true ↔ ¬ Disjoint (bits a.word) (bits b.word) := by
  rw [intersects, bne_iff_ne, disjoint_bits_iff]

theorem isEmpty_iff : a.isEmpty = true ↔ bits a.word = ∅ := by
  rw [isEmpty, beq_iff_eq, bits_eq_empty_iff]

theorem isAll_iff : a.isAll = true ↔ bits a.word = Finset.univ := by
  rw [isAll, beq_iff_eq, and_known, ← bits_known, bits_injective.eq_iff]

end Attributes
end FirmwareVars
