import FirmwareVars.Proofs.Utf8
import FirmwareVars.Store
/-!
# The order of entry names

Entry names are sorted by their bytes, compared one by one (`precedes_iff_le`).  Different texts have different bytes,
so a collection of entry names has one sorted list, whatever order it came in (`sort_eq_of_perm`, `sort_unique`).
-/
namespace FirmwareVars
namespace EntryName

/-- **`precedes` is the order of byte strings.** -/
theorem precedes_iff_le : ∀ a b : Bytes, precedes a b = true ↔ a ≤ b
  | [], b => ⟨fun _ => List.nil_le b, fun _ => by cases b <;> rfl⟩
  | x :: a, [] => by
    refine ⟨fun h => ?_, fun h => absurd (List.nil_lt_cons x a) h⟩
    rw [precedes] at h
    cases h
  | x :: a, y :: b => by
    rw [List.cons_le_cons_iff, precedes]
    by_cases hxy : x = y
    · rw [if_pos hxy, precedes_iff_le a b]
      refine ⟨fun h => .inr ⟨hxy, h⟩, fun h => ?_⟩
      rcases h with hlt | ⟨-, h⟩
      · exact absurd (hxy ▸ hlt) (UInt8.lt_irrefl y)
      · exact h
    · rw [if_neg hxy, decide_eq_true_eq]
      refine ⟨.inl, fun h => ?_⟩
      rcases h with h | ⟨heq, -⟩
      · exact h
      · exact absurd heq hxy

/-- The text with the lesser bytes comes first. -/
def Before (a b : Text) : Prop := Utf8.encode a ≤ Utf8.encode b

theorem Before.antisymm {a b : Text} (hab : Before a b) (hba : Before b a) : a = b :=
  Utf8.encode_injective (List.le_antisymm hab hba)

theorem sort_perm (entries : List Text) : (sort entries).Perm entries := List.mergeSort_perm _ _

theorem pairwise_sort (entries : List Text) : (sort entries).Pairwise Before := by
  have h : (sort entries).Pairwise fun a b => precedes (Utf8.encode a) (Utf8.encode b) = true := by
    apply List.pairwise_mergeSort
    · intro a b c hab hbc
      rw [precedes_iff_le] at *
      exact List.le_trans hab hbc
    · intro a b
      rw [Bool.or_eq_true, precedes_iff_le, precedes_iff_le]
      exact List.le_total _ _
  exact h.imp (precedes_iff_le _ _).1

/-- **There is only one sorted list of the entries.** -/
theorem sort_unique {entries sorted : List Text} (hp : sorted.Perm entries) (hs : sorted.Pairwise Before) :
    sort entries = sorted :=
  List.Perm.eq_of_pairwise (fun _ _ _ _ => Before.antisymm) (pairwise_sort entries) hs
    ((sort_perm entries).trans hp.symm)

theorem sort_eq_of_perm {entries entries' : List Text} (h : entries.Perm entries') : sort entries = sort entries' :=
  sort_unique ((sort_perm entries').trans h.symm) (pairwise_sort entries')

end EntryName
end FirmwareVars
