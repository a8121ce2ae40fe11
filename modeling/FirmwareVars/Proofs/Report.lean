import FirmwareVars.Proofs.Attributes
import FirmwareVars.Proofs.Guid.Spelling
import FirmwareVars.Proofs.Numeral.Places
import FirmwareVars.Report
/-!
# Tables, line by line

Records and listings are printed as lines of cells with tabs between them, the name last and as it is.  Every cell but
the name is free of tabs and line breaks, so a line is taken apart into its cells whatever tabs the name has
(`recordOf?_row`, `identityOf?_row`).  A name with a line break makes more lines than one (`length_lines_rows_iff`); a
table without such names is read back line by line (`map_recordOf?_lines`, `map_identityOf?_lines`).
-/
namespace FirmwareVars
namespace Report

/-! ## Lines and cells -/

/-- The lines of a text that ends each of them. -/
def lines (t : Text) : List Text := (Text.splitOn '\n' t).dropLast

/-- Cells, each with a tab behind it, and then a name. -/
def row (cells : List Text) (name : Text) : Text := cells.flatMap (fun c => c ++ ['\t']) ++ name

/-- The first `n` cells of a line, and the rest of it, tabs included, as the name. -/
def cells (n : Nat) (l : Text) : List Text × Text :=
  ((Text.splitOn '\t' l).take n, Text.joinWith ['\t'] ((Text.splitOn '\t' l).drop n))

theorem lines_line_append {l : Text} (h : '\n' ∉ l) (t : Text) : lines (line l ++ t) = l :: lines t := by
  rw [lines, line, List.append_assoc, List.singleton_append, Text.splitOn_append, Text.splitOn_of_notMem h,
    List.singleton_append, List.dropLast_cons_of_ne_nil (Text.splitOn_ne_nil t)]
  rfl

theorem lines_flatMap_line : ∀ {ls : List Text}, (∀ l ∈ ls, '\n' ∉ l) → lines (ls.flatMap line) = ls
  | [], _ => rfl
  | l :: ls, h => by
    have ih := lines_flatMap_line fun l' hl' => h l' (List.mem_cons_of_mem l hl')
    rw [List.flatMap_cons, lines_line_append (h l List.mem_cons_self), ih]

theorem length_lines (t : Text) : (lines t).length = t.count '\n' := by
  rw [lines, List.length_dropLast, Text.length_splitOn, Nat.add_sub_cancel]

theorem count_flatMap_line : ∀ ls : List Text,
    (ls.flatMap line).count '\n' = ls.length + (ls.map (List.count '\n')).sum
  | [] => rfl
  | l :: ls => by
    rw [List.flatMap_cons, List.count_append, count_flatMap_line ls, line, List.count_append, List.count_singleton_self,
      List.length_cons, List.map_cons, List.sum_cons]
    omega

theorem length_lines_eq_iff (ls : List Text) : (lines (ls.flatMap line)).length = ls.length ↔ ∀ l ∈ ls, '\n' ∉ l := by
  rw [length_lines, count_flatMap_line, Nat.add_eq_left, List.sum_eq_zero_iff_forall_eq_nat]
  simp [List.count_eq_zero]

theorem splitOn_row {name : Text} : ∀ {cs : List Text}, (∀ c ∈ cs, '\t' ∉ c) →
    Text.splitOn '\t' (row cs name) = cs ++ Text.splitOn '\t' name
  | [], _ => rfl
  | c :: cs, h => by
    have ih : Text.splitOn '\t' (row cs name) = cs ++ Text.splitOn '\t' name :=
      splitOn_row fun c' hc' => h c' (List.mem_cons_of_mem c hc')
    have hcons : row (c :: cs) name = c ++ '\t' :: row cs name := by simp [row]
    rw [hcons, Text.splitOn_append, Text.splitOn_of_notMem (h c List.mem_cons_self), ih]
    rfl

theorem cells_row {cs : List Text} (h : ∀ c ∈ cs, '\t' ∉ c) (name : Text) : cells cs.length (row cs name) = (cs, name) := by
  rw [cells, splitOn_row h, List.take_left, List.drop_left, Text.joinWith_splitOn]

theorem mem_row_iff {cs : List Text} {c : Char} (hc : c ≠ '\t') (h : ∀ cell ∈ cs, c ∉ cell) {name : Text} :
    c ∈ row cs name ↔ c ∈ name := by
  have hcells : c ∉ cs.flatMap fun cell => cell ++ ['\t'] := by
    simp only [List.mem_flatMap, List.mem_append, List.mem_singleton, not_exists, not_and, not_or]
    exact fun cell hcell => ⟨h cell hcell, hc⟩
  rw [row, List.mem_append, or_iff_right hcells]

section Rows

variable {α : Type} {before : α → List Text} {name : α → Text} (hbefore : ∀ a, ∀ cell ∈ before a, '\n' ∉ cell)
  {as : List α}
include hbefore

/-- **Each row is a line exactly when no name has a line break.** -/
theorem length_lines_rows_iff : (lines (as.flatMap fun a => line (row (before a) (name a)))).length = as.length ↔
    ∀ a ∈ as, '\n' ∉ name a := by
  have hlines := length_lines_eq_iff (as.map fun a => row (before a) (name a))
  rw [List.flatMap_map, List.length_map, List.forall_mem_map] at hlines
  rw [hlines]
  exact forall₂_congr fun a _ => not_congr (mem_row_iff (by decide) (hbefore a))

theorem lines_rows (h : ∀ a ∈ as, '\n' ∉ name a) :
    lines (as.flatMap fun a => line (row (before a) (name a))) = as.map fun a => row (before a) (name a) := by
  have hrows : ∀ l ∈ as.map fun a => row (before a) (name a), '\n' ∉ l := by
    rw [List.forall_mem_map]
    exact fun a ha => mt (mem_row_iff (by decide) (hbefore a)).1 (h a ha)
  rw [← lines_flatMap_line hrows, List.flatMap_map]

end Rows

/-! ## Cells without breaks -/

/-- Takes a line apart: a tab or a line break. -/
def IsBreak (c : Char) : Prop := c = '\t' ∨ c = '\n'

theorem isHexDigit_of_mem_decimal {n : Nat} {c : Char} (h : c ∈ Numeral.decimal n) : Numeral.isHexDigit c = true :=
  Numeral.isHexDigit_of_mem_spell (by decide) (by decide) h

theorem IsBreak.notMem_number {c : Char} (hc : IsBreak c) (n : Nat) : c ∉ Text.padLeft 6 (Numeral.decimal n) := by
  have hno : c ≠ ' ' ∧ ¬ Numeral.isHexDigit c = true := by rcases hc with rfl | rfl <;> decide
  intro h
  rcases List.mem_append.1 h with h | h
  · exact hno.1 (List.eq_of_mem_replicate h)
  · exact hno.2 (isHexDigit_of_mem_decimal h)

theorem IsBreak.notMem_guid {c : Char} (hc : IsBreak c) (g : Guid) : c ∉ g.spell := by
  have hno : c ≠ '-' ∧ ¬ Numeral.isHexDigit c = true := by rcases hc with rfl | rfl <;> decide
  exact fun h => (Guid.mem_spell h).elim hno.1 hno.2

/-! ## Variables -/

theorem flatten_content (i : Identity) (v : Variable) : (content i v).flatten =
    line ("Name: ".toList ++ i.name) ++ line ("Guid: ".toList ++ i.guid.spell) ++
    line ("Attributes: ".toList ++ v.attributes.hex ++ [' '] ++ v.attributes.describe) ++
    line ("Size: ".toList ++ Numeral.decimal v.payload.length) ++ line ("Data: ".toList ++ Bytes.hexDump v.payload) := by
  simp only [content, List.flatten_cons, List.flatten_nil, List.append_nil, List.append_assoc]

/-! ## Records -/

def recordCells (r : NameRecord) : List Text :=
  [Text.padLeft 6 (Numeral.decimal r.offset), Text.padLeft 6 (Numeral.decimal r.next.toNat), r.guid.spell]

/-- The number of a cell, with any blanks before it. -/
def number? (cell : Text) : Option Nat := Numeral.read? 10 (Text.trimLeft cell)

def recordOf? (l : Text) : Option NameRecord :=
  match cells 3 l with
  | ([offset, next, guid], name) => do
    return ⟨← number? offset, UInt32.ofNat (← number? next), ← Guid.parse? guid, name⟩
  | _ => none

theorem record_eq (r : NameRecord) : record r = line (row (recordCells r) r.name) := by
  simp [record, recordCells, row]

theorem flatten_records (rs : List NameRecord) :
    (records rs).flatten = rs.flatMap fun r => line (row (recordCells r) r.name) := by
  rw [records, ← List.flatMap_def]
  exact congrArg rs.flatMap (funext record_eq)

theorem number?_padLeft (n : Nat) : number? (Text.padLeft 6 (Numeral.decimal n)) = some n := by
  obtain ⟨c, t, ht⟩ : ∃ c t, Numeral.decimal n = c :: t := List.exists_cons_of_ne_nil (Numeral.spell_ne_nil 10 n)
  have hc : Text.isBlank c = false :=
    Numeral.isBlank_of_isHexDigit (isHexDigit_of_mem_decimal (n := n) (ht ▸ List.mem_cons_self))
  have htrim (k : Nat) : Text.trimLeft (List.replicate k ' ' ++ Numeral.decimal n) = Numeral.decimal n := by
    rw [Text.trimLeft, List.dropWhile_append_of_pos fun b hb => by rw [List.eq_of_mem_replicate hb]; decide, ht,
      List.dropWhile_cons_of_neg (by simp [hc])]
  rw [number?, Text.padLeft, htrim, Numeral.read?_decimal]

theorem IsBreak.notMem_recordCells {c : Char} (hc : IsBreak c) (r : NameRecord) : ∀ cell ∈ recordCells r, c ∉ cell := by
  simp [recordCells, hc.notMem_number, hc.notMem_guid]

/-- **A record is read back from its line**, whatever its name is. -/
theorem recordOf?_row (r : NameRecord) : recordOf? (row (recordCells r) r.name) = some r := by
  have hcells : cells 3 (row (recordCells r) r.name) = (recordCells r, r.name) :=
    cells_row (IsBreak.notMem_recordCells (.inl rfl) r) r.name
  unfold recordOf?
  rw [hcells]
  simp only [recordCells, number?_padLeft, Guid.parse?_spell]
  change some (⟨r.offset, UInt32.ofNat r.next.toNat, r.guid, r.name⟩ : NameRecord) = some r
  rw [UInt32.ofNat_toNat]

theorem length_lines_records_iff {rs : List NameRecord} :
    (lines (records rs).flatten).length = rs.length ↔ ∀ r ∈ rs, '\n' ∉ r.name := by
  rw [flatten_records]
  exact length_lines_rows_iff (IsBreak.notMem_recordCells (.inr rfl))

/-- **Records are read back line by line**, when no name has a line break. -/
theorem map_recordOf?_lines {rs : List NameRecord} (h : ∀ r ∈ rs, '\n' ∉ r.name) :
    (lines (records rs).flatten).map recordOf? = rs.map some := by
  rw [flatten_records, lines_rows (IsBreak.notMem_recordCells (.inr rfl)) h, List.map_map]
  exact List.map_congr_left fun r _ => by rw [Function.comp_apply, recordOf?_row]

/-! ## Tables -/

def identityOf? (l : Text) : Option Identity :=
  match cells 1 l with
  | ([guid], name) => do return ⟨name, ← Guid.parse? guid⟩
  | _ => none

def headLine : Text := "Guid".toList ++ List.replicate 5 '\t' ++ "Name".toList

theorem tableRow_eq (i : Identity) : tableRow i = line (row [i.guid.spell] i.name) := by
  simp [tableRow, row]

theorem IsBreak.notMem_identityCells {c : Char} (hc : IsBreak c) (i : Identity) : ∀ cell ∈ [i.guid.spell], c ∉ cell := by
  simp [hc.notMem_guid]

theorem identityOf?_row (i : Identity) : identityOf? (row [i.guid.spell] i.name) = some i := by
  have hcells : cells 1 (row [i.guid.spell] i.name) = ([i.guid.spell], i.name) :=
    cells_row (IsBreak.notMem_identityCells (.inl rfl) i) i.name
  unfold identityOf?
  rw [hcells]
  simp only [Guid.parse?_spell]
  rfl

section Table

variable {ids : List Identity} (hne : ids ≠ [])
include hne

theorem lines_table : lines (table ids).flatten =
    headLine :: lines (ids.flatMap fun i => line (row [i.guid.spell] i.name)) := by
  have hhead : tableHead = line headLine := rfl
  rw [table, if_neg hne, List.flatten_cons, hhead, lines_line_append (by decide), ← List.flatMap_def]
  exact congrArg (fun f => headLine :: lines (ids.flatMap f)) (funext tableRow_eq)

theorem length_lines_table_iff :
    (lines (table ids).flatten).length = ids.length + 1 ↔ ∀ i ∈ ids, '\n' ∉ i.name := by
  rw [lines_table hne, List.length_cons, Nat.add_right_cancel_iff]
  exact length_lines_rows_iff (IsBreak.notMem_identityCells (.inr rfl))

/-- **A table is read back line by line**, when no name has a line break. -/
theorem map_identityOf?_lines (h : ∀ i ∈ ids, '\n' ∉ i.name) :
    (lines (table ids).flatten).tail.map identityOf? = ids.map some := by
  rw [lines_table hne, List.tail_cons, lines_rows (IsBreak.notMem_identityCells (.inr rfl)) h, List.map_map]
  exact List.map_congr_left fun i _ => by rw [Function.comp_apply, identityOf?_row]

theorem table_ne_table_nil : (table ids).flatten ≠ (table []).flatten := by
  -- the line for an empty table begins with another character than the headings
  have hfirst : (table ids).flatten.head? = some 'G' := by
    rw [table, if_neg hne]
    rfl
  have hnone : (table []).flatten.head? = some '(' := rfl
  intro h
  rw [h, hnone] at hfirst
  exact absurd hfirst (by decide)

end Table

/-- **Tables without line breaks in names are told apart.** -/
theorem table_injective {ids ids' : List Identity} (h : ∀ i ∈ ids, '\n' ∉ i.name) (h' : ∀ i ∈ ids', '\n' ∉ i.name)
    (heq : (table ids).flatten = (table ids').flatten) : ids = ids' := by
  by_cases hne : ids = []
  · subst hne
    by_contra hne'
    exact table_ne_table_nil (Ne.symm hne') heq.symm
  by_cases hne' : ids' = []
  · subst hne'
    exact absurd heq (table_ne_table_nil hne)
  have hmap : ids.map some = ids'.map some := by
    rw [← map_identityOf?_lines hne h, heq, map_identityOf?_lines hne' h']
  exact List.map_injective_iff.2 (Option.some_injective _) hmap

end Report
end FirmwareVars
