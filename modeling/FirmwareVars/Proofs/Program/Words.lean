import FirmwareVars.Proofs.Attributes.Items
import FirmwareVars.Proofs.Program.Copy
/-!
# Words as they are shown

`get` shows the attribute word of a variable by the names of its bits and the number of the others.  Nothing of the word
is lost on the way: not in the algebra of words, not in their items, not in their text (`no_bit_lost`).
-/
namespace FirmwareVars
namespace Program

open CommandLine (Invocation)
open EntryName (Addressable)
open Attributes (Flag bits flags Partition IsShortHex)
open scoped symmDiff

theorem exists_content_eq (i : Identity) (v : Variable) : ∃ after, (Report.content i v).flatten =
    Report.line ("Name: ".toList ++ i.name) ++ Report.line ("Guid: ".toList ++ i.guid.spell) ++
      Report.line ("Attributes: ".toList ++ v.attributes.hex ++ [' '] ++ v.attributes.describe) ++ after :=
  ⟨_, (Report.flatten_content i v).trans (List.append_assoc _ _ _)⟩

/-- **No bit of a word is lost or invented.**  The items of a word are the flags that it has, in the order of the table,
and at most one more, without a bit that has a name; none is empty, no two share a bit and together they are the word.
Every number of 32 bits is a word, as it is, and the operations on words are those on sets of the thirty-two bits, where
each set is that of one word.  The text of a word is made of the names of those flags and the number of the rest, or is a
zero for the empty word; two words with the same text are the same; and this is the text that `get` prints for a
variable that holds the word. -/
theorem no_bit_lost (a b : Attributes) :
    (∃ rest numbers, a.items = a.named.map Flag.bit ++ rest ∧ rest.length ≤ 1 ∧
      a.named = flags.filter (fun f => a.contains ⟨f.bit⟩) ∧ (∀ w ∈ rest, ∀ f ∈ flags, w &&& f.bit = 0) ∧
      Partition a.word a.items ∧ List.Forall₂ IsShortHex numbers rest ∧
      a.describe = "Attributes(".toList ++ Text.joinWith " | ".toList
        (if a.word = 0 then ["0x0".toList] else a.named.map Flag.name ++ numbers) ++ ")".toList) ∧
    (∀ w, Attributes.ofWord? w = some ⟨w⟩ ∧ Attributes.truncate w = ⟨w⟩) ∧ a.complement.complement = a ∧
    (Function.Bijective bits ∧
      bits (a.union b).word = bits a.word ∪ bits b.word ∧ bits (a.inter b).word = bits a.word ∩ bits b.word ∧
      bits (a.diff b).word = bits a.word \ bits b.word ∧ bits (a.symmDiff b).word = bits a.word ∆ bits b.word ∧
      bits a.complement.word = (bits a.word)ᶜ ∧ (a.contains b = true ↔ bits b.word ⊆ bits a.word) ∧
      (a.intersects b = true ↔ ¬ Disjoint (bits a.word) (bits b.word)) ∧ (a.isEmpty = true ↔ bits a.word = ∅) ∧
      (a.isAll = true ↔ bits a.word = Finset.univ)) ∧
    (a.describe = b.describe → a = b) ∧
    ∀ (m : Machine) i payload inv surroundings config, Addressable i → inv.command = .get i false →
      (m.run (resolve inv surroundings).run).1 = .ok config →
      m.files.read m.cwd (Store.variablePath ⟨config⟩ i) = .ok (Bytes.littleEndian 4 a.word.toNat ++ payload) →
      ∃ after, ending m inv surroundings = ⟨0, Utf8.encode (
        Report.line ("Name: ".toList ++ i.name) ++ Report.line ("Guid: ".toList ++ i.guid.spell) ++
        Report.line ("Attributes: ".toList ++ a.hex ++ [' '] ++ a.describe) ++ after), none⟩ := by
  refine ⟨?_, fun w => ⟨Attributes.ofWord?_eq w, Attributes.truncate_eq w⟩, a.complement_complement, ?_,
    Attributes.describe_injective, ?_⟩
  · refine ⟨a.remainder, a.remainder.map Attributes.number, a.items_eq, a.length_remainder_le, a.named_eq,
      fun w hw => Attributes.and_flag_of_mem_remainder hw, a.partition_items, a.isShortHex_remainder, ?_⟩
    rw [← a.parts_eq]
    rfl
  · exact ⟨Attributes.bits_bijective, a.bits_union b, a.bits_inter b, a.bits_diff b, a.bits_symmDiff b,
      a.bits_complement, Attributes.contains_iff, Attributes.intersects_iff, Attributes.isEmpty_iff,
      Attributes.isAll_iff⟩
  · intro m i payload inv surroundings config ha hcommand hconfig hread
    obtain ⟨after, hcontent⟩ := exists_content_eq i ⟨a, payload⟩
    refine ⟨after, ?_⟩
    rw [ending_of_prints hcommand hconfig fun m' hm => prints_get (v := ⟨a, payload⟩) ha (hm.files ▸ hm.cwd ▸ hread),
      Utf8.flatten_map_encode, hcontent]

/-- The standard word with a bit that has no name. -/
theorem no_bit_lost_unnamed :
    let a : Attributes := ⟨0x80000007⟩
    let b : Attributes := Attributes.standard.union ⟨0x80000000⟩
    let i : Identity := ⟨['B'], ⟨0, 0, 0, 0⟩⟩
    let m : Machine := ⟨⟨[([[0x64]], .directory), ([[0x64], Utf8.encode i.spell], .file [7, 0, 0, 0x80, 1])]⟩, [], [], []⟩
    let inv : Invocation := ⟨some ⟨[0x64]⟩, none, .get i false⟩
    (0x80000000 ∈ a.items ∧ (0x80000000 : UInt32) ≠ 0) ∧ (a.describe = b.describe ∧ a = b) ∧
    Addressable i ∧ inv.command = .get i false ∧ (m.run (resolve inv ⟨none, none⟩).run).1 = .ok ⟨⟨[0x64]⟩, 7⟩ ∧
    m.files.read m.cwd (Store.variablePath ⟨⟨⟨[0x64]⟩, 7⟩⟩ i) = .ok (Bytes.littleEndian 4 a.word.toNat ++ [1]) ∧
    ∃ after, ending m inv ⟨none, none⟩ = ⟨0, Utf8.encode (
      Report.line "Name: B".toList ++ Report.line "Guid: 00000000-0000-0000-0000-000000000000".toList ++
      Report.line ("Attributes: 0x80000007 Attributes(NON_VOLATILE | BOOTSERVICE_ACCESS | RUNTIME_ACCESS | " ++
        "0x80000000)").toList ++ after), none⟩ := by
  intro a b i m inv
  have hitem : 0x80000000 ∈ a.items := by decide +kernel
  have htext : a.describe = b.describe := by decide +kernel
  have ha : Addressable i := by decide
  have hconfig : (m.run (resolve inv ⟨none, none⟩).run).1 = .ok ⟨⟨[0x64]⟩, 7⟩ := by decide +kernel
  have hread : m.files.read m.cwd (Store.variablePath ⟨⟨⟨[0x64]⟩, 7⟩⟩ i) =
      .ok (Bytes.littleEndian 4 a.word.toNat ++ [1]) := by decide +kernel
  obtain ⟨⟨_, _, -, -, -, -, hpartition, -⟩, -, -, -, hinjective, hget⟩ := no_bit_lost a b
  obtain ⟨after, hafter⟩ := hget m i [1] inv ⟨none, none⟩ _ ha rfl hconfig hread
  have hline : "Attributes: ".toList ++ a.hex ++ [' '] ++ a.describe =
      ("Attributes: 0x80000007 Attributes(NON_VOLATILE | BOOTSERVICE_ACCESS | RUNTIME_ACCESS | " ++
        "0x80000000)").toList := by decide +kernel
  have hguid : "Guid: ".toList ++ i.guid.spell = "Guid: 00000000-0000-0000-0000-000000000000".toList := by
    decide +kernel
  rw [hline, hguid] at hafter
  exact ⟨⟨hitem, hpartition.ne_zero _ hitem⟩, ⟨htext, hinjective htext⟩, ha, rfl, hconfig, hread, after, hafter⟩

end Program
end FirmwareVars
