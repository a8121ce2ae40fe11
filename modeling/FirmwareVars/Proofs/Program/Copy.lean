import FirmwareVars.Proofs.Attributes
import FirmwareVars.Proofs.Program.Ending
import FirmwareVars.Proofs.Report
/-!
# Copies

What `set` stores is what `get` gives, and what `get` shows can be stored again (`set_get_copies`).  The file of a
variable, its raw form and the lines that describe it determine each other, so nothing is lost on any of the ways from
one to another.
-/
namespace FirmwareVars

open CommandLine (Invocation Command)
open EntryName (Addressable)
open Machine (Runs run_bind_of_ok)

namespace Program

variable {s : Store} {i : Identity} {m m' : Machine} {file : Path} {attributes : Option UInt32}

/-! ## Commands on a store -/

theorem prints_get_raw (ha : Addressable i) {bytes : Bytes} (h : m.files.read m.cwd (s.variablePath i) = .ok bytes) :
    Prints m (execute s (.get i true)) [bytes] :=
  prints_after_quiet (Store.asks_read (fun _ => trivial) trivial) (congrArg Prod.fst (Store.run_read_of_ok ha h))
    (prints_write bytes)

theorem prints_get (ha : Addressable i) {v : Variable} (h : m.files.read m.cwd (s.variablePath i) = .ok v.toBytes) :
    Prints m (execute s (.get i false)) ((Report.content i v).map Utf8.encode) := by
  refine prints_after_quiet (Store.asks_readVariable (fun _ => trivial) trivial) ?_ (prints_print _)
  rw [Store.run_readVariable_of_ok ha h, Variable.ofBytes?_toBytes]
  rfl

/-- A `set` that succeeded has found the payload and filled the file of the variable. -/
theorem runs_set_ok (h : Runs m (execute s (.set i file attributes)).run (.ok ()) m') :
    Addressable i ∧ ∃ payload loc, m.files.read m.cwd file = .ok payload ∧
      m.files.locate m.cwd true (s.variablePath i) = .ok loc ∧ m.files.lookup loc ≠ some .directory ∧
      m.files.lookup loc ≠ some (.device .full) ∧ m'.cwd = m.cwd ∧
      m'.files = m.files.filled loc
        (⟨(attributes.map Attributes.mk).getD s.config.attributes, payload⟩ : Variable).toBytes := by
  obtain ⟨payload, hpayload, h⟩ | ⟨_, hx, -⟩ := Machine.runs_readFile_bind.1 h
  · obtain ⟨outcome, m₁, hstore, hrest⟩ | ⟨_, -, hx⟩ := Machine.runs_operation_bind.1 h
    · have hend : m'.files = m₁.files ∧ m'.cwd = m₁.cwd := by
        cases outcome with
        | written bytes => exact (runs_print.1 hrest).2 ▸ ⟨rfl, rfl⟩
        | _ => exact (Machine.runs_pure.1 hrest).2 ▸ ⟨rfl, rfl⟩
      have hwrite := runs_ofStore_ok.1 hstore
      by_cases ha : Addressable i
      · have hreplace := (Store.runs_write_some ha).1 hwrite
        rcases Store.runs_replace.1 hreplace with ⟨_, hx, -⟩ | ⟨loc, hloc, hdir, hend⟩
        · cases hx
        · rcases hend with ⟨_, _, hx, -⟩ | ⟨hfull, -, rfl⟩
          · cases hx
          · exact ⟨ha, payload, loc, hpayload, hloc, hdir, hfull, hend.2, hend.1⟩
      · rw [Store.write_refused ha] at hwrite
        cases (Machine.runs_throw.1 hwrite).1
    · cases hx
  · cases hx

/-- **What was stored is read back.** -/
theorem read_of_set (hr : m.files.Rooted) (h : Runs m (execute s (.set i file attributes)).run (.ok ()) m')
    (hnull : ∀ loc, m.files.locate m.cwd true (s.variablePath i) = .ok loc →
      m.files.lookup loc ≠ some (.device .null)) :
    Addressable i ∧ ∃ payload, m.files.read m.cwd file = .ok payload ∧
      m'.files.read m'.cwd (s.variablePath i) =
        .ok (⟨(attributes.map Attributes.mk).getD s.config.attributes, payload⟩ : Variable).toBytes := by
  obtain ⟨ha, payload, loc, hpayload, hloc, hdir, hfull, hcwd, hfiles⟩ := runs_set_ok h
  have hdev (kind : Device) : m.files.lookup loc ≠ some (.device kind) := by
    cases kind with
    | null => exact hnull loc hloc
    | full => exact hfull
  refine ⟨ha, payload, hpayload, ?_⟩
  rw [hfiles, hcwd]
  exact FileSystem.read_filled hr (EntryName.isSingle_encode ha) hloc hdir hdev _

/-- **Storing what is stored already changes nothing.** -/
theorem run_set_same {w : UInt32} {payload : Bytes} (ha : Addressable i)
    (hpayload : m.files.read m.cwd file = .ok payload)
    (h : m.files.read m.cwd (s.variablePath i) = .ok (⟨⟨w⟩, payload⟩ : Variable).toBytes) :
    (m.run (execute s (.set i file (some w))).run).1 = .ok () ∧
      (m.run (execute s (.set i file (some w))).run).2.files = m.files := by
  obtain ⟨loc, hloc, hfile⟩ := FileSystem.file_of_read h (Variable.toBytes_ne_nil _)
  have hask : m.run (Operation.ask (.readFile file) (RunError.payload file)).run = (.ok payload, m) := by
    rw [Machine.run_ask]
    simp only [Machine.answer, hpayload]
  have hreplace := Store.run_replace_of_locate hloc (by simp [hfile]) (by simp [hfile]) ⟨⟨w⟩, payload⟩
  rw [FileSystem.filled_self hfile] at hreplace
  obtain ⟨n, events, hwrite⟩ : ∃ n events,
      m.run (s.write i (some payload) (some ⟨w⟩)).run = (.ok (.written n), m.heard events) :=
    ⟨_, _, (Store.run_write_some ha m payload (some ⟨w⟩)).trans hreplace⟩
  have hstore : m.run (ofStore (s.write i (some payload) (some ⟨w⟩))).run = (.ok (.written n), m.heard events) := by
    rw [ofStore, Machine.run_mapError, hwrite]
    rfl
  have hset : m.run (execute s (.set i file (some w))).run =
      (.ok (), (m.heard events).said [Utf8.encode (Report.written i n)]) :=
    (run_bind_of_ok hask _).trans ((run_bind_of_ok hstore _).trans (run_print _ _))
  rw [hset]
  exact ⟨rfl, rfl⟩

/-! ## Runs -/

variable {inv : Invocation} {surroundings : Surroundings} {config config' : Config}

theorem variablePath_congr (h : config'.root = config.root) (i : Identity) :
    Store.variablePath ⟨config'⟩ i = Store.variablePath ⟨config⟩ i :=
  congrArg (fun root => root.join (Path.ofText i.spell)) h

/-- The text of a word is read on the command line as that word. -/
theorem readFrom_hex (a : Attributes) : CommandLine.readFrom Attributes.parse? (Utf8.encode a.hex) = .ok a.word := by
  rw [CommandLine.readFrom, CommandLine.readText, Utf8.decode?_encode]
  simp only [Attributes.parse?_hex]

/-- **`set` and `get` copy variables without loss.**  After a `set` that succeeded, in any store with the same root,
`get` prints in raw form exactly the word that was given, or that of the settings of the `set`, and then the payload,
unless the file of the variable is a link to the device that keeps nothing.  The other way, of any file that is long
enough for a word `get` prints lines from which the word, the size and the payload are read back, the word as the
command line reads it; and a `set` of that word and payload succeeds and leaves all files as they are. -/
theorem set_get_copies (m : Machine) (i : Identity) :
    (m.files.Rooted → ∀ inv surroundings config file attributes, inv.command = .set i file attributes →
      (m.run (resolve inv surroundings).run).1 = .ok config →
      (∀ loc, m.files.locate m.cwd true (Store.variablePath ⟨config⟩ i) = .ok loc →
        m.files.lookup loc ≠ some (.device .null)) →
      (ending m inv surroundings).status = 0 →
      ∃ payload, m.files.read m.cwd file = .ok payload ∧
        ∀ inv' surroundings' config', inv'.command = .get i true →
          ((m.run (run inv surroundings).run).2.run (resolve inv' surroundings').run).1 = .ok config' →
          config'.root = config.root →
          ending (m.run (run inv surroundings).run).2 inv' surroundings' =
            ⟨0, Bytes.littleEndian 4 (attributes.getD config.defaultAttributes).toNat ++ payload, none⟩) ∧
    (Addressable i → ∀ inv surroundings config raw, inv.command = .get i false →
      (m.run (resolve inv surroundings).run).1 = .ok config →
      m.files.read m.cwd (Store.variablePath ⟨config⟩ i) = .ok raw → 4 ≤ raw.length →
      ∃ word payload hex names size data, raw = Bytes.littleEndian 4 (UInt32.toNat word) ++ payload ∧
        ending m inv surroundings = ⟨0, Utf8.encode (
          Report.line ("Name: ".toList ++ i.name) ++ Report.line ("Guid: ".toList ++ i.guid.spell) ++
          Report.line ("Attributes: ".toList ++ hex ++ [' '] ++ names) ++
          Report.line ("Size: ".toList ++ size) ++ Report.line ("Data: ".toList ++ data)), none⟩ ∧
        ' ' ∉ hex ∧ CommandLine.readFrom Attributes.parse? (Utf8.encode hex) = .ok word ∧
        Numeral.read? 10 size = some payload.length ∧ Bytes.ofHexDump? data = some payload ∧
        ∀ (m' : Machine) inv' surroundings' config' file, inv'.command = .set i file (some word) →
          (m'.run (resolve inv' surroundings').run).1 = .ok config' → config'.root = config.root →
          m'.files.read m'.cwd file = .ok payload →
          m'.files.read m'.cwd (Store.variablePath ⟨config⟩ i) = .ok raw →
          (ending m' inv' surroundings').status = 0 ∧
            (m'.run (run inv' surroundings').run).2.files = m'.files) := by
  constructor
  · intro hr inv surroundings config file attributes hcommand hconfig hnull hstatus
    have hok := status_eq_zero_iff.1 hstatus
    obtain ⟨events, hrun⟩ := run_of_command hcommand hconfig
    have hset : Runs (m.heard events) (execute ⟨config⟩ (.set i file attributes)).run (.ok ())
        (m.run (run inv surroundings).run).2 := Machine.runs_of_run (hrun.symm.trans (Prod.ext hok rfl))
    obtain ⟨ha, payload, hpayload, hread⟩ := read_of_set (m := m.heard events) hr hset hnull
    refine ⟨payload, hpayload, fun inv' surroundings' config' hcommand' hconfig' hroot => ?_⟩
    rw [← variablePath_congr hroot] at hread
    rw [ending_of_prints hcommand' hconfig' fun m' hm => prints_get_raw ha (hm.files ▸ hm.cwd ▸ hread)]
    cases attributes <;> simp [Variable.toBytes, Variable.wordLength, Config.attributes]
  · intro ha inv surroundings config raw hcommand hconfig hraw hlen
    obtain ⟨v, rfl⟩ := Variable.exists_toBytes hlen
    refine ⟨v.attributes.word, v.payload, v.attributes.hex, v.attributes.describe, Numeral.decimal v.payload.length,
      Bytes.hexDump v.payload, rfl, ?_, ?_, readFrom_hex v.attributes, Numeral.read?_decimal _,
      Bytes.ofHexDump?_hexDump _, ?_⟩
    · rw [ending_of_prints hcommand hconfig fun m' hm => prints_get ha (hm.files ▸ hm.cwd ▸ hraw),
        Utf8.flatten_map_encode, Report.flatten_content]
    · intro hspace
      have hblank := v.attributes.notBlank_of_mem_hex ' ' hspace
      revert hblank
      decide
    · intro m' inv' surroundings' config' file hcommand' hconfig' hroot hpayload hraw'
      obtain ⟨events', hrun'⟩ := run_of_command hcommand' hconfig'
      rw [← variablePath_congr hroot] at hraw'
      rw [status_eq_zero_iff, hrun']
      exact run_set_same (m := m'.heard events') ha hpayload hraw'

/-- A word with a bit that has no name, stored by way of the environment and stored again by hand. -/
theorem set_get_copies_unnamed_bit :
    let i : Identity := ⟨['B'], ⟨0, 0, 0, 0⟩⟩
    let root : Path := ⟨[0x64]⟩
    let stored : Bytes := [7, 0, 0, 0x80, 1, 2, 3]
    let m : Machine := ⟨⟨[([[0x64]], .directory), ([[0x70]], .file [1, 2, 3])]⟩, [], [], []⟩
    let surroundings : Surroundings := ⟨some [0x64], some (Utf8.encode "0x80000007".toList)⟩
    let set (word : Option UInt32) : Invocation := ⟨some root, none, .set i ⟨[0x70]⟩ word⟩
    let get (raw : Bool) : Invocation := ⟨some root, none, .get i raw⟩
    let bare : Surroundings := ⟨none, none⟩
    let after := (m.run (run (set none) surroundings).run).2
    m.files.Rooted ∧ Addressable i ∧ (ending m (set none) surroundings).status = 0 ∧
      ending after (get true) bare = ⟨0, stored, none⟩ ∧
      after.files.read after.cwd (Store.variablePath ⟨⟨root, 7⟩⟩ i) = .ok stored ∧
      (after.run (run (set (some 0x80000007)) bare).run).2.files = after.files := by
  intro i root stored m surroundings set get bare after
  have hrooted : m.files.Rooted := by decide +kernel
  have ha : Addressable i := by decide
  have hset : (m.run (resolve (set none) surroundings).run).1 = .ok ⟨root, 0x80000007⟩ := by decide +kernel
  have hstatus : (ending m (set none) surroundings).status = 0 := by decide +kernel
  have hnull (loc : Location)
      (hloc : m.files.locate m.cwd true (Store.variablePath ⟨⟨root, 0x80000007⟩⟩ i) = .ok loc) :
      m.files.lookup loc ≠ some (.device .null) := by
    have hentry : m.files.locate m.cwd true (Store.variablePath ⟨⟨root, 0x80000007⟩⟩ i) =
        .ok [[0x64], Utf8.encode i.spell] := by decide +kernel
    rw [← Except.ok.inj (hentry.symm.trans hloc)]
    decide +kernel
  have hplain (raw : Bool) : (after.run (resolve (get raw) bare).run).1 = .ok ⟨root, 7⟩ := by
    cases raw <;> decide +kernel
  have hagain : (after.run (resolve (set (some 0x80000007)) bare).run).1 = .ok ⟨root, 7⟩ := by decide +kernel
  have hpayload : after.files.read after.cwd ⟨[0x70]⟩ = .ok [1, 2, 3] := by decide +kernel
  have hstored : after.files.read after.cwd (Store.variablePath ⟨⟨root, 7⟩⟩ i) = .ok stored := by decide +kernel
  obtain ⟨payload, hfound, hget⟩ :=
    (set_get_copies m i).1 hrooted (set none) surroundings _ ⟨[0x70]⟩ none rfl hset hnull hstatus
  obtain rfl : [1, 2, 3] = payload := Except.ok.inj hfound
  obtain ⟨word, payload, -, -, -, -, hpacked, -, -, -, -, -, hcopy⟩ :=
    (set_get_copies after i).2 ha (get false) bare _ _ rfl (hplain false) hstored (by decide)
  have hread : Variable.ofBytes? stored = some ⟨⟨word⟩, payload⟩ :=
    hpacked ▸ Variable.ofBytes?_toBytes ⟨⟨word⟩, payload⟩
  have hunpacked : Variable.ofBytes? stored = some ⟨⟨0x80000007⟩, [1, 2, 3]⟩ := by decide
  obtain ⟨⟨rfl⟩, rfl⟩ := Variable.mk.inj (Option.some.inj (hunpacked.symm.trans hread))
  have hbytes : Bytes.littleEndian 4 (0x80000007 : UInt32).toNat ++ [1, 2, 3] = stored := by decide
  refine ⟨hrooted, ha, hstatus, ?_, hstored,
    (hcopy after (set (some 0x80000007)) bare _ ⟨[0x70]⟩ rfl hagain rfl hpayload hstored).2⟩
  rw [← hbytes]
  exact hget (get true) bare _ rfl (hplain true) rfl

end Program
end FirmwareVars
