import FirmwareVars.Proofs.Host.Alike
import FirmwareVars.Proofs.Identity.Json
import FirmwareVars.Proofs.Program.Copy
import FirmwareVars.Proofs.Report
/-!
# What is printed about a whole store

`list` prints a table and `names --decode` prints records, both with the names as they are.  Over a store that can be
listed, both come to one line each and are read back exactly when no name has a line break (`one_line_each`); a line
break in a name makes two lines of one, and then the tables of two stores can be the same (`two_lines_of_one`).
`list --json` escapes the names, and is read back whatever they are (`json_read_back`).
-/
namespace FirmwareVars

open CommandLine (Invocation)

namespace Program

/-! ## What is printed -/

/-- The run is over a store that can be listed, with these identities. -/
structure Lists (inv : Invocation) (surroundings : Surroundings) (m : Machine) (config : Config)
    (ids : List Identity) : Prop where
  resolved : (m.run (resolve inv surroundings).run).1 = .ok config
  listed : (m.run (Store.list ⟨config⟩).run).1 = .ok ids

variable {inv : Invocation} {surroundings : Surroundings} {m : Machine} {config : Config} {ids : List Identity}

theorem lists_of_sorted {entries sorted : List Text} (hperm : sorted.Perm entries)
    (hsorted : sorted.Pairwise EntryName.Before) (hids : sorted.map EntryName.decode = ids.map .ok)
    (hresolved : (m.run (resolve inv surroundings).run).1 = .ok config)
    (hdir : m.files.list m.cwd config.root = .ok (entries.map Utf8.encode)) : Lists inv surroundings m config ids where
  resolved := hresolved
  listed := by
    rw [Store.run_list_ok (s := ⟨config⟩) hdir ((EntryName.sort_unique hperm hsorted).symm ▸ hids)]

theorem short_of_list {root : Path} {raws : List Bytes} (hdir : m.files.list m.cwd root = .ok raws)
    (h : ∀ raw ∈ raws, raw.length < 2 ^ 31) :
    ∀ raws, m.files.list m.cwd root = .ok raws → ∀ raw ∈ raws, raw.length < 2 ^ 31 := by
  intro raws' hdir'
  rw [hdir] at hdir'
  cases hdir'
  exact h

theorem Lists.listed_like (h : Lists inv surroundings m config ids) {m' : Machine} (hm : m.Like m') :
    (m'.run (Store.list ⟨config⟩).run).1 = .ok ids :=
  (Machine.run_like hm (Store.list ⟨config⟩).run).1 ▸ h.listed

theorem Lists.ending_list (h : Lists inv surroundings m config ids) {json : Bool} (hcommand : inv.command = .list json) :
    ending m inv surroundings =
      ⟨0, Utf8.encode (if json then Report.json ids else (Report.table ids).flatten), none⟩ := by
  have hprints (m' : Machine) (hm : m.Like m') : Prints m' (execute ⟨config⟩ (.list json))
      ((if json then [Report.json ids] else Report.table ids).map Utf8.encode) :=
    prints_after_quiet (Store.asks_list (fun _ => trivial) trivial) (h.listed_like hm) (prints_print _)
  rw [ending_of_prints hcommand h.resolved hprints, Utf8.flatten_map_encode]
  cases json with
  | true => simp only [if_true, List.flatten_singleton]
  | false => rfl

theorem Lists.ending_names (h : Lists inv surroundings m config ids)
    (hshort : ∀ raws, m.files.list m.cwd config.root = .ok raws → ∀ raw ∈ raws, raw.length < 2 ^ 31) {out : Option Path}
    (hcommand : inv.command = .names out true) : ending m inv surroundings =
      ⟨0, Utf8.encode (Report.records (NameRecord.chain 0 ids)).flatten, none⟩ := by
  have hdecode := NameRecord.decode_of_pack (Store.pack_of_listed hshort h.listed)
  have hprints (m' : Machine) (hm : m.Like m') : Prints m' (execute ⟨config⟩ (.names out true))
      ((Report.records (NameRecord.chain 0 ids)).map Utf8.encode) := by
    refine prints_after_quiet (a := NameRecord.assemble ids) (Store.asks_packedNames (fun _ => trivial) trivial) ?_
      fun m'' => ?_
    · -- a machine with the same files packs the same names
      rw [Store.fst_run_packedNames_eq (hm.files ▸ hm.cwd ▸ hshort), h.listed_like hm]
      rfl
    · simp only [if_true, hdecode]
      exact prints_print _ _
  rw [ending_of_prints hcommand h.resolved hprints, Utf8.flatten_map_encode]

/-- **One line for each record, as far as names have no line breaks.**  Over a store that can be listed, whose entry names
are shorter than two gigabytes, the names are printed in as many lines as there are records exactly when no name has a
line break, and so is the listing, below a line of headings.  Then the lines, split at tabs with the name last, are the
records of the packed names and the listed identities again, whatever tabs the names have, and two listings that print
the same are the same. -/
theorem one_line_each (h : Lists inv surroundings m config ids) :
    ((∀ raws, m.files.list m.cwd config.root = .ok raws → ∀ raw ∈ raws, raw.length < 2 ^ 31) →
      ∀ out, inv.command = .names out true → ∃ buffer rs text,
      (m.run (Store.packedNames ⟨config⟩).run).1 = .ok buffer ∧ NameRecord.decode buffer = .ok rs ∧
      rs.map NameRecord.identity = ids ∧
      ending m inv surroundings = ⟨0, Utf8.encode text, none⟩ ∧
      ((Report.lines text).length = rs.length ↔ ∀ i ∈ ids, '\n' ∉ i.name) ∧
      ((∀ i ∈ ids, '\n' ∉ i.name) → (Report.lines text).map Report.recordOf? = rs.map some)) ∧
    (inv.command = .list false → ids ≠ [] → ∃ text,
      ending m inv surroundings = ⟨0, Utf8.encode text, none⟩ ∧
      (Report.lines text).head? = some Report.headLine ∧
      ((Report.lines text).length = ids.length + 1 ↔ ∀ i ∈ ids, '\n' ∉ i.name) ∧
      ((∀ i ∈ ids, '\n' ∉ i.name) → (Report.lines text).tail.map Report.identityOf? = ids.map some)) ∧
    ∀ inv' surroundings' m' config' ids', Lists inv' surroundings' m' config' ids' →
      inv.command = .list false → inv'.command = .list false →
      (∀ i ∈ ids, '\n' ∉ i.name) → (∀ i ∈ ids', '\n' ∉ i.name) →
      (ending m inv surroundings).output = (ending m' inv' surroundings').output → ids = ids' := by
  refine ⟨fun hshort out hcommand => ?_, fun hcommand hne => ?_, ?_⟩
  · have hpack := Store.pack_of_listed hshort h.listed
    have hids : (NameRecord.chain 0 ids).map NameRecord.identity = ids := NameRecord.map_identity_chain 0 ids
    have hnames : (∀ i ∈ ids, '\n' ∉ i.name) ↔ ∀ r ∈ NameRecord.chain 0 ids, '\n' ∉ r.name := by
      rw [← hids, List.forall_mem_map, hids]
      rfl
    refine ⟨_, NameRecord.chain 0 ids, _, ?_, NameRecord.decode_of_pack hpack, hids,
      h.ending_names hshort hcommand, Report.length_lines_records_iff.trans hnames.symm,
      fun hclean => Report.map_recordOf?_lines (hnames.1 hclean)⟩
    rw [Store.fst_run_packedNames_eq hshort, h.listed]
    rfl
  · exact ⟨_, h.ending_list hcommand, congrArg List.head? (Report.lines_table hne), Report.length_lines_table_iff hne,
      Report.map_identityOf?_lines hne⟩
  · intro inv' surroundings' m' config' ids' h' hcommand hcommand' hclean hclean' houtput
    rw [h.ending_list hcommand, h'.ending_list hcommand'] at houtput
    exact Report.table_injective hclean hclean' (Utf8.encode_injective houtput)

/-- A name with tabs, of which the last is its end, and a plain one; the same two out of order and with an upper-case
digit; and the plain one alone. -/
theorem one_line_each_tabs :
    let is : List Identity := [⟨"A\tB\t".toList, ⟨0, 0, 0, 0⟩⟩, ⟨['C'], ⟨0, 0, 0, 10⟩⟩]
    let entries : List Text := is.map Identity.spell
    let upper : Text := "C-00000000-0000-0000-0000-00000000000A".toList
    let store (entries : List Text) : Machine :=
      ⟨⟨([[0x64]], .directory) :: entries.map fun t => ([[0x64], Utf8.encode t], .file [])⟩, [], [], []⟩
    let swapped : Machine := store (upper :: entries.take 1)
    let fewer : Machine := store (entries.drop 1)
    let inv (command : CommandLine.Command) : Invocation := ⟨some ⟨[0x64]⟩, none, command⟩
    let listing (m : Machine) : Bytes := (ending m (inv (.list false)) ⟨none, none⟩).output
    ∃ js ks, (∀ command, Lists (inv command) ⟨none, none⟩ (store entries) ⟨⟨[0x64]⟩, 7⟩ is ∧
      Lists (inv command) ⟨none, none⟩ swapped ⟨⟨[0x64]⟩, 7⟩ js ∧
      Lists (inv command) ⟨none, none⟩ fewer ⟨⟨[0x64]⟩, 7⟩ ks) ∧
    (∃ text, ending (store entries) (inv (.names none true)) ⟨none, none⟩ = ⟨0, Utf8.encode text, none⟩ ∧
      (Report.lines text).length = 2) ∧
    (∃ text, ending (store entries) (inv (.list false)) ⟨none, none⟩ = ⟨0, Utf8.encode text, none⟩ ∧
      (Report.lines text).tail.map Report.identityOf? = is.map some) ∧
    listing (store entries) = listing swapped ∧ is = js ∧ listing (store entries) ≠ listing fewer := by
  intro is entries upper store swapped fewer inv listing
  have hbefore : EntryName.Before (Identity.spell ⟨"A\tB\t".toList, ⟨0, 0, 0, 0⟩⟩) upper ∧
      EntryName.Before (Identity.spell ⟨"A\tB\t".toList, ⟨0, 0, 0, 0⟩⟩) (Identity.spell ⟨['C'], ⟨0, 0, 0, 10⟩⟩) := by
    unfold EntryName.Before
    decide +kernel
  have hdir : (store entries).files.list [] ⟨[0x64]⟩ = .ok (entries.map Utf8.encode) := by decide +kernel
  have hresolved (m : Machine) (command : CommandLine.Command) :
      (m.run (resolve (inv command) ⟨none, none⟩).run).1 = .ok ⟨⟨[0x64]⟩, 7⟩ := by cases command <;> rfl
  have hall (command : CommandLine.Command) : Lists (inv command) ⟨none, none⟩ (store entries) ⟨⟨[0x64]⟩, 7⟩ is :=
    lists_of_sorted (.refl entries) (List.pairwise_pair.2 hbefore.2) (by decide +kernel) (hresolved _ _) hdir
  have hswapped (command : CommandLine.Command) : Lists (inv command) ⟨none, none⟩ swapped ⟨⟨[0x64]⟩, 7⟩ is :=
    lists_of_sorted (.swap upper _ []) (List.pairwise_pair.2 hbefore.1) (by decide +kernel) (hresolved _ _)
      (by decide +kernel)
  have hfewer (command : CommandLine.Command) :
      Lists (inv command) ⟨none, none⟩ fewer ⟨⟨[0x64]⟩, 7⟩ (is.drop 1) :=
    lists_of_sorted (.refl (entries.drop 1)) (List.pairwise_singleton _ _) (by decide +kernel) (hresolved _ _)
      (by decide +kernel)
  have hclean : ∀ i ∈ is, '\n' ∉ i.name := by decide
  obtain ⟨-, hlist, hsame⟩ := one_line_each (hall (.list false))
  obtain ⟨_, rs, text, -, -, hrs, hshown, hiff, -⟩ :=
    (one_line_each (hall (.names none true))).1 (short_of_list hdir (by decide +kernel)) none rfl
  obtain ⟨text', hlisted, -, -, hread⟩ := hlist rfl (by simp [is])
  have hlength : rs.length = 2 := by
    rw [← List.length_map NameRecord.identity, hrs]
    rfl
  have houtput : listing (store entries) = listing swapped := by
    simp only [listing, (hall (.list false)).ending_list rfl, (hswapped (.list false)).ending_list rfl]
  refine ⟨is, is.drop 1, fun command => ⟨hall command, hswapped command, hfewer command⟩,
    ⟨text, hshown, (hiff.2 hclean).trans hlength⟩, ⟨text', hlisted, hread hclean⟩, houtput,
    hsame _ _ _ _ _ (hswapped _) rfl rfl hclean hclean houtput, fun h => ?_⟩
  have hfew : is = is.drop 1 := hsame _ _ _ _ _ (hfewer _) rfl rfl hclean (by decide) h
  exact absurd (congrArg List.length hfew) (by decide)

/-- A name with a line break makes two lines of one record, and the table of its store is that of a store with two other
variables. -/
theorem two_lines_of_one :
    let g : Guid := ⟨0, 0, 0, 0⟩
    let g' : Guid := ⟨0, 0, 0, 1⟩
    let i : Identity := ⟨"A\n".toList ++ g'.spell ++ "\tB".toList, g⟩
    let is : List Identity := [⟨['A'], g⟩, ⟨['B'], g'⟩]
    let m : Machine := ⟨⟨[([[0x64]], .directory), ([[0x64], Utf8.encode i.spell], .file [])]⟩, [], [], []⟩
    let m' : Machine := ⟨⟨([[0x64]], .directory) :: is.map fun j => ([[0x64], Utf8.encode j.spell], .file [])⟩, [], [], []⟩
    let inv (command : CommandLine.Command) : Invocation := ⟨some ⟨[0x64]⟩, none, command⟩
    (∀ command, Lists (inv command) ⟨none, none⟩ m ⟨⟨[0x64]⟩, 7⟩ [i] ∧
      Lists (inv command) ⟨none, none⟩ m' ⟨⟨[0x64]⟩, 7⟩ is) ∧
    (∃ text, ending m (inv (.names none true)) ⟨none, none⟩ = ⟨0, Utf8.encode text, none⟩ ∧
      (Report.lines text).length = 2) ∧
    ending m (inv (.list false)) ⟨none, none⟩ = ending m' (inv (.list false)) ⟨none, none⟩ := by
  intro g g' i is m m' inv
  have hdir : m.files.list m.cwd ⟨[0x64]⟩ = .ok ([i.spell].map Utf8.encode) := by decide +kernel
  have hone (command : CommandLine.Command) : Lists (inv command) ⟨none, none⟩ m ⟨⟨[0x64]⟩, 7⟩ [i] :=
    lists_of_sorted (.refl [i.spell]) (List.pairwise_singleton _ _) (by decide +kernel) (by cases command <;> rfl) hdir
  have hshort := short_of_list hdir (by decide +kernel)
  have htwo (command : CommandLine.Command) : Lists (inv command) ⟨none, none⟩ m' ⟨⟨[0x64]⟩, 7⟩ is := by
    have hle : EntryName.Before (Identity.spell ⟨['A'], g⟩) (Identity.spell ⟨['B'], g'⟩) := by
      unfold EntryName.Before
      decide +kernel
    exact lists_of_sorted (.refl (is.map Identity.spell)) (List.pairwise_pair.2 hle) (by decide +kernel)
      (by cases command <;> rfl) (by decide +kernel)
  refine ⟨fun command => ⟨hone command, htwo command⟩,
    ⟨_, (hone (.names none true)).ending_names hshort rfl, by decide +kernel⟩, ?_⟩
  rw [(hone (.list false)).ending_list rfl, (htwo (.list false)).ending_list rfl]
  have htable : (Report.table [i]).flatten = (Report.table is).flatten := by decide +kernel
  simp only [Bool.false_eq_true, if_false, htable]

/-! ## As JSON -/

/-- **A listing in JSON is the listing.**  Any list of identities is read back from the lines that it is printed in, in
its order, and any identity from its one-line form and from its form in lines, at any margin.  So over a store that can
be listed, the listing succeeds, its bytes are a text, and the text is read as the list of the identities, whatever
characters their names have. -/
theorem json_read_back :
    (∀ ids : List Identity, Identity.listOfJson (Report.json ids) = .ok ids) ∧
    (∀ i : Identity, Identity.ofJson i.toJson = .ok i ∧ ∀ indent, Identity.ofJson (i.toJsonLines indent) = .ok i) ∧
    ∀ inv surroundings m config ids, Lists inv surroundings m config ids → inv.command = .list true → ∃ output text,
      ending m inv surroundings = ⟨0, output, none⟩ ∧ Utf8.decode? output = some text ∧
        Identity.listOfJson text = .ok ids := by
  have hjson (ids : List Identity) : Identity.listOfJson (Report.json ids) = .ok ids :=
    Identity.listOfJson_listToJson (Identity.isGap_newline 0) ids
  refine ⟨hjson, fun i => ⟨Identity.ofJson_toJson i, fun indent => Identity.ofJson_toJsonLines indent i⟩, ?_⟩
  intro inv surroundings m config ids h hcommand
  exact ⟨_, Report.json ids, h.ending_list hcommand, Utf8.decode?_encode _, hjson ids⟩

/-- Names with a quote, a backslash, control characters and characters of two and of four bytes. -/
theorem json_read_back_escapes :
    let is : List Identity := [⟨['\x22', '\\', '\n', '\t', '\x01', '\x7f'], ⟨0, 0, 0, 1⟩⟩, ⟨"é😀".toList, ⟨0, 0, 0, 0⟩⟩]
    let m : Machine := ⟨⟨([[0x64]], .directory) :: is.map fun i => ([[0x64], Utf8.encode i.spell], .file [])⟩, [], [], []⟩
    let inv : Invocation := ⟨some ⟨[0x64]⟩, none, .list true⟩
    Lists inv ⟨none, none⟩ m ⟨⟨[0x64]⟩, 7⟩ is ∧ inv.command = .list true ∧ ∃ output text,
      ending m inv ⟨none, none⟩ = ⟨0, output, none⟩ ∧ Utf8.decode? output = some text ∧
        Identity.listOfJson text = .ok is := by
  intro is m inv
  have hsorted : (is.map Identity.spell).Pairwise EntryName.Before := by
    refine List.pairwise_pair.2 ?_
    unfold EntryName.Before
    decide +kernel
  have hlists : Lists inv ⟨none, none⟩ m ⟨⟨[0x64]⟩, 7⟩ is :=
    lists_of_sorted (.refl (is.map Identity.spell)) hsorted (by decide +kernel) rfl (by decide +kernel)
  exact ⟨hlists, rfl, json_read_back.2.2 inv ⟨none, none⟩ m _ is hlists rfl⟩

end Program
end FirmwareVars
