import FirmwareVars.Proofs.Attributes.Algebra
import FirmwareVars.Proofs.Numeral.Places
import FirmwareVars.Proofs.Text
/-!
# The parts of a word

A word is taken apart into its flags and what is left of it.  The loop that does this takes each flag that the word has
(`takeFlags_fst`) and leaves the bits of no flag taken (`mem_bits_takeFlags_snd`), so the items of a word are disjoint
and together they are the word (`partition_items`).  The text of a word names these items and nothing else, and the word
is read back from it (`describe_injective`).
-/
namespace FirmwareVars
namespace Attributes

variable {w : UInt32} {i : Fin 32} {a b : Attributes}

/-! ## Taking flags -/

/-- **What is left are the bits of no flag taken**, whatever the table. -/
theorem mem_bits_takeFlags_snd : ∀ {fs : List Flag} {left : UInt32}, i ∈ bits (a.takeFlags fs left).2 ↔
    i ∈ bits left ∧ ∀ f ∈ (a.takeFlags fs left).1, i ∉ bits f.bit
  | [], left => by simp [takeFlags]
  | f :: fs, left => by
    unfold takeFlags
    split
    · have ih := @mem_bits_takeFlags_snd fs (left &&& ~~~f.bit)
      simp only [ih, bits_and, bits_not, Finset.mem_inter, Finset.mem_compl, List.forall_mem_cons, and_assoc]
    · exact mem_bits_takeFlags_snd

/-- **The flags taken are those that the word has**, in the order of the table, when no two flags share a bit and none is
empty. -/
theorem takeFlags_fst : ∀ {fs : List Flag} {left : UInt32}, (∀ f ∈ fs, f.bit ≠ 0) →
    fs.Pairwise (fun f g => Disjoint (bits f.bit) (bits g.bit)) →
    (∀ f ∈ fs, a.contains ⟨f.bit⟩ = true → bits f.bit ⊆ bits left) →
    (a.takeFlags fs left).1 = fs.filter fun f => a.contains ⟨f.bit⟩
  | [], _, _, _, _ => rfl
  | f :: fs, left, hne, hdisjoint, hleft => by
    rw [List.forall_mem_cons] at hne hleft
    rw [List.pairwise_cons] at hdisjoint
    unfold takeFlags
    by_cases hf : a.contains ⟨f.bit⟩ = true
    · -- taking a flag leaves the flags still to come whole, since they share no bit with it
      have hkept : left &&& f.bit = f.bit := by
        apply bits_injective
        rw [bits_and, Finset.inter_eq_right.2 (hleft.1 hf)]
      have hstill : ∀ g ∈ fs, a.contains ⟨g.bit⟩ = true → bits g.bit ⊆ bits (left &&& ~~~f.bit) := by
        intro g hg hcontains
        rw [bits_and, bits_not, Finset.subset_inter_iff, Finset.subset_compl_iff_disjoint_left]
        exact ⟨hleft.2 g hg hcontains, hdisjoint.1 g hg⟩
      have ih := takeFlags_fst hne.2 hdisjoint.2 hstill
      simp [hf, hkept, hne.1, ih]
    · have ih := takeFlags_fst hne.2 hdisjoint.2 hleft.2
      simp [hf, ih]

/-! ## The table -/

theorem exists_bits_eq_singleton {f : Flag} (hf : f ∈ flags) : ∃ i, bits f.bit = {i} := by
  have hall : ∀ f ∈ flags, ∃ i, bits f.bit = {i} := by decide +kernel
  exact hall f hf

theorem ne_zero_of_mem_flags : ∀ f ∈ flags, f.bit ≠ 0 := by decide

theorem pairwise_flags : flags.Pairwise fun f g => Disjoint (bits f.bit) (bits g.bit) := by
  simp only [disjoint_bits_iff]
  decide

theorem named_eq (a : Attributes) : a.named = flags.filter fun f => a.contains ⟨f.bit⟩ :=
  takeFlags_fst ne_zero_of_mem_flags pairwise_flags fun _ _ hf => contains_mk_iff.1 hf

theorem mem_named_iff {f : Flag} : f ∈ a.named ↔ f ∈ flags ∧ bits f.bit ⊆ bits a.word := by
  rw [named_eq, List.mem_filter, contains_mk_iff]

theorem mem_bits_residue_iff : i ∈ bits a.residue ↔ i ∈ bits a.word ∧ ∀ f ∈ flags, i ∉ bits f.bit := by
  rw [residue, mem_bits_takeFlags_snd]
  refine and_congr_right fun hi => ⟨fun h f hf hif => ?_, fun h f hf => h f (mem_named_iff.1 hf).1⟩
  obtain ⟨j, hj⟩ := exists_bits_eq_singleton hf
  obtain rfl : i = j := by rwa [hj, Finset.mem_singleton] at hif
  have hsub : bits f.bit ⊆ bits a.word := by rwa [hj, Finset.singleton_subset_iff]
  exact h f (mem_named_iff.2 ⟨hf, hsub⟩) hif

theorem residue_and_flag (a : Attributes) {f : Flag} (hf : f ∈ flags) : a.residue &&& f.bit = 0 := by
  rw [← disjoint_bits_iff, Finset.disjoint_left]
  exact fun i hi => (mem_bits_residue_iff.1 hi).2 f hf

/-! ## Items -/

/-- Parts that make up a word: none is empty, no two share a bit, and no bit is lost or added. -/
structure Partition (w : UInt32) (parts : List UInt32) : Prop where
  ne_zero : ∀ v ∈ parts, v ≠ 0
  disjoint : parts.Pairwise fun v v' => v &&& v' = 0
  union : parts.foldr (· ||| ·) 0 = w

/-- The residue as an item, when there is one. -/
def remainder (a : Attributes) : List UInt32 := if a.residue = 0 then [] else [a.residue]

theorem items_eq (a : Attributes) : a.items = a.named.map Flag.bit ++ a.remainder := rfl

theorem mem_remainder_iff : w ∈ a.remainder ↔ w = a.residue ∧ w ≠ 0 := by
  unfold remainder
  split
  next h => simp [h]
  next h =>
    rw [List.mem_singleton]
    exact ⟨fun hw => ⟨hw, hw ▸ h⟩, And.left⟩

theorem length_remainder_le (a : Attributes) : a.remainder.length ≤ 1 := by
  unfold remainder
  split <;> simp

theorem and_flag_of_mem_remainder (hw : w ∈ a.remainder) : ∀ f ∈ flags, w &&& f.bit = 0 := by
  rw [(mem_remainder_iff.1 hw).1]
  exact fun f hf => a.residue_and_flag hf

theorem mem_bits_iff_items : i ∈ bits a.word ↔ ∃ w ∈ a.items, i ∈ bits w := by
  simp only [items_eq, List.mem_append, List.mem_map, mem_remainder_iff]
  constructor
  · intro hi
    by_cases h : ∀ f ∈ a.named, i ∉ bits f.bit
    · have hres : i ∈ bits a.residue := mem_bits_takeFlags_snd.2 ⟨hi, h⟩
      have hne : a.residue ≠ 0 := by
        intro hzero
        rw [hzero, bits_zero] at hres
        exact absurd hres (Finset.notMem_empty i)
      exact ⟨a.residue, .inr ⟨rfl, hne⟩, hres⟩
    · push Not at h
      obtain ⟨f, hf, hif⟩ := h
      exact ⟨f.bit, .inl ⟨f, hf, rfl⟩, hif⟩
  · rintro ⟨w, ⟨f, hf, rfl⟩ | ⟨rfl, -⟩, hi⟩
    · exact (mem_named_iff.1 hf).2 hi
    · exact (mem_bits_residue_iff.1 hi).1

/-- **No bit of a word is lost or added, and none is counted twice.** -/
theorem partition_items (a : Attributes) : Partition a.word a.items where
  ne_zero := by
    intro w hw
    rw [items_eq, List.mem_append, List.mem_map] at hw
    rcases hw with ⟨f, hf, rfl⟩ | hw
    · exact ne_zero_of_mem_flags f (mem_named_iff.1 hf).1
    · exact (mem_remainder_iff.1 hw).2
  disjoint := by
    rw [items_eq, List.pairwise_append]
    refine ⟨?_, ?_, ?_⟩
    · simp only [← disjoint_bits_iff, List.pairwise_map]
      rw [named_eq]
      exact pairwise_flags.filter _
    · unfold remainder
      split
      · exact .nil
      · exact List.pairwise_singleton _ _
    · intro v hv w hw
      obtain ⟨f, hf, rfl⟩ := List.mem_map.1 hv
      rw [UInt32.and_comm]
      exact and_flag_of_mem_remainder hw f (mem_named_iff.1 hf).1
  union := by
    apply bits_injective
    ext i
    rw [mem_bits_foldr, mem_bits_iff_items]

theorem items_eq_nil_iff : a.items = [] ↔ a.word = 0 := by
  have hunion := a.partition_items.union
  constructor
  · intro h
    rw [← hunion, h]
    rfl
  · intro h
    rw [List.eq_nil_iff_forall_not_mem]
    intro w hw
    have hsub : bits w ⊆ bits a.word := fun i hi => mem_bits_iff_items.2 ⟨w, hw, hi⟩
    rw [h, bits_zero, Finset.subset_empty, bits_eq_empty_iff] at hsub
    exact a.partition_items.ne_zero w hw hsub

/-! ## Text -/

/-- The number of a word, as it stands among the names. -/
def number (w : UInt32) : Text := "0x".toList ++ Numeral.spell 16 w.toNat

/-- The text is `0x` and then the fewest digits for the word, in lower case. -/
def IsShortHex (t : Text) (w : UInt32) : Prop :=
  ∃ digits, t = "0x".toList ++ digits ∧ Numeral.Denotes 16 digits w.toNat ∧ (∀ c ∈ digits, c.toLower = c) ∧
    digits.head? ≠ some '0'

theorem isShortHex_number (h : w ≠ 0) : IsShortHex (number w) w := by
  have hn : w.toNat ≠ 0 := fun hzero => h (UInt32.toNat_inj.1 hzero)
  exact ⟨_, rfl, Numeral.denotes_spell (by decide) (by decide) _, Numeral.toLower_of_mem_spell (by decide) (by decide) _,
    Numeral.head?_spell_ne (by decide) (by decide) hn⟩

theorem isShortHex_remainder (a : Attributes) : List.Forall₂ IsShortHex (a.remainder.map number) a.remainder := by
  rw [List.forall₂_map_left_iff, List.forall₂_same]
  exact fun w hw => isShortHex_number (mem_remainder_iff.1 hw).2

/-- **A word is shown by its names and the number of the rest**; only the empty one is shown by a zero. -/
theorem parts_eq (a : Attributes) :
    a.parts = if a.word = 0 then ["0x0".toList] else a.named.map Flag.name ++ a.remainder.map number := by
  by_cases hres : a.residue = 0
  · have hrem : a.remainder = [] := if_pos hres
    by_cases hnamed : a.named = []
    · have hword : a.word = 0 := items_eq_nil_iff.1 (by rw [items_eq, hnamed, hrem]; rfl)
      rw [if_pos hword, parts, hnamed, hres]
      decide +kernel
    · have hword : a.word ≠ 0 := by
        rw [ne_eq, ← items_eq_nil_iff, items_eq, hrem]
        simpa using hnamed
      rw [if_neg hword, parts, if_pos ⟨hres, hnamed⟩, hrem]
      rfl
  · have hrem : a.remainder = [a.residue] := if_neg hres
    have hword : a.word ≠ 0 := by
      rw [ne_eq, ← items_eq_nil_iff, items_eq, hrem]
      simp
    rw [if_neg hword, parts, if_neg (fun h => hres h.1), hrem]
    rfl

/-- The word that a part of a text stands for: that of a number, or the bit of a name. -/
def ofPart? : Text → Option UInt32
  | '0' :: 'x' :: digits => Numeral.readWord? 16 digits
  | name => (flags.find? fun f => f.name = name).map Flag.bit

theorem ofPart?_number (w : UInt32) : ofPart? (number w) = some w :=
  Numeral.readWord?_spell (by decide) (by decide) w

theorem ofPart?_name {f : Flag} (hf : f ∈ flags) : ofPart? f.name = some f.bit := by
  have hall : ∀ f ∈ flags, ofPart? f.name = some f.bit := by decide +kernel
  exact hall f hf

theorem filterMap_ofPart?_items (a : Attributes) :
    (a.named.map Flag.name ++ a.remainder.map number).filterMap ofPart? = a.items := by
  have hnames : (a.named.map Flag.name).filterMap ofPart? = a.named.map Flag.bit := by
    rw [List.filterMap_map, ← List.filterMap_eq_map]
    exact List.filterMap_congr fun f hf => ofPart?_name (mem_named_iff.1 hf).1
  have hnumbers : (a.remainder.map number).filterMap ofPart? = a.remainder := by
    rw [List.filterMap_map]
    have hall : ∀ w ∈ a.remainder, (ofPart? ∘ number) w = some w := fun w _ => ofPart?_number w
    rw [List.filterMap_congr hall, List.filterMap_some]
  rw [List.filterMap_append, hnames, hnumbers, items_eq]

/-- **A word is read back from its parts.** -/
theorem foldr_parts (a : Attributes) : (a.parts.filterMap ofPart?).foldr (· ||| ·) 0 = a.word := by
  rw [parts_eq]
  split
  next h =>
    rw [h]
    decide +kernel
  next => rw [filterMap_ofPart?_items, a.partition_items.union]

theorem parts_ne_nil (a : Attributes) : a.parts ≠ [] := by
  rw [parts]
  intro h
  obtain ⟨hnames, hnumber⟩ := List.append_eq_nil_iff.1 h
  rw [if_neg (fun hnamed => hnamed.2 (List.map_eq_nil_iff.1 hnames))] at hnumber
  cases hnumber

theorem space_notMem_parts (a : Attributes) : ∀ p ∈ a.parts, ' ' ∉ p := by
  have hnames : ∀ f ∈ flags, ' ' ∉ f.name := by decide +kernel
  have hnumber (w : UInt32) : ' ' ∉ number w := by
    intro h
    rcases List.mem_append.1 h with h | h
    · exact absurd h (by decide)
    · exact absurd (Numeral.isHexDigit_of_mem_spell (by decide) (by decide) h) (by decide)
  intro p hp
  rw [parts, List.mem_append, List.mem_map] at hp
  rcases hp with ⟨f, hf, rfl⟩ | hp
  · exact hnames f (mem_named_iff.1 hf).1
  · split at hp
    · cases hp
    · rw [List.mem_singleton.1 hp]
      exact hnumber a.residue

/-- **Words are told apart by their texts.** -/
theorem describe_injective (h : a.describe = b.describe) : a = b := by
  have hjoin : Text.joinWith " | ".toList a.parts = Text.joinWith " | ".toList b.parts :=
    List.append_cancel_left (List.append_cancel_right h)
  have hparts : a.parts = b.parts :=
    Text.joinWith_injective a.parts_ne_nil b.parts_ne_nil a.space_notMem_parts b.space_notMem_parts hjoin
  have hword : a.word = b.word := by rw [← foldr_parts a, hparts, foldr_parts b]
  exact congrArg Attributes.mk hword

end Attributes
end FirmwareVars
