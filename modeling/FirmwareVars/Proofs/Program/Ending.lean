import FirmwareVars.Proofs.Host.Absent
import FirmwareVars.Proofs.Program.Output
import FirmwareVars.Proofs.Store.Packing
/-!
# How runs end

`Fails` lists the ways in which a run can fail, one rule for each step that can, and a run fails in these ways and no
other, whatever the host refuses (`runs_run_error_iff`): printing comes last in every command, so nothing can fail once
anything was printed.  What failed can be told from the exit status, and a run that failed has printed nothing and
changed no file unless it was a write that broke off (`failing_run_clean`).
-/
namespace FirmwareVars

open CommandLine (Invocation Command)
open EntryName (Addressable)
open Machine (Runs)

theorem StoreError.code_lt (e : StoreError) : 0 < e.code ∧ e.code < 256 := by
  cases e <;> simp [code, status, Status.code]

namespace Program

variable {inv : Invocation} {surroundings : Surroundings} {s : Store} {m m' : Machine}

/-! ## Ways to fail -/

/-- The store fails at its part of a command. -/
inductive StoreFails (s : Store) (m : Machine) : Command → StoreError → Machine → Prop
  | read {i : Identity} {e : StoreError} {m' : Machine} (h : Runs m (s.read i).run (.error e) m') :
      StoreFails s m (.get i true) e m'
  | readVariable {i : Identity} {e : StoreError} {m' : Machine} (h : Runs m (s.readVariable i).run (.error e) m') :
      StoreFails s m (.get i false) e m'
  | write {i : Identity} {file : Path} {attributes : Option UInt32} {payload : Bytes} {e : StoreError} {m' : Machine}
      (hpayload : m.files.read m.cwd file = .ok payload)
      (h : Runs m (s.write i (some payload) (attributes.map Attributes.mk)).run (.error e) m') :
      StoreFails s m (.set i file attributes) e m'
  | delete {i : Identity} {e : StoreError} {m' : Machine} (h : Runs m (s.delete i).run (.error e) m') :
      StoreFails s m (.delete i) e m'
  | list {json : Bool} {e : StoreError} {m' : Machine} (h : Runs m s.list.run (.error e) m') :
      StoreFails s m (.list json) e m'
  | names {out : Option Path} {decode : Bool} {e : StoreError} {m' : Machine}
      (h : Runs m s.packedNames.run (.error e) m') : StoreFails s m (.names out decode) e m'

/-- A command fails once the settings are there. -/
inductive CommandFails (s : Store) (m : Machine) : Command → RunError → Machine → Prop
  | store {command : Command} {e : StoreError} {m' : Machine} (h : StoreFails s m command e m') :
      CommandFails s m command (.store e) m'
  | payload {i : Identity} {file : Path} {attributes : Option UInt32} (failure : Failure) :
      CommandFails s m (.set i file attributes) (.payload file failure) m
  | output {out : Path} {buffer : Bytes} {failure : Failure} {m₁ m' : Machine}
      (hbuffer : Runs m s.packedNames.run (.ok buffer) m₁)
      (h : Runs m₁ (save out buffer).run (.error (.output out failure)) m') :
      CommandFails s m (.names (some out) false) (.output out failure) m'

/-- A run fails at its document, at its settings or at its command. -/
inductive Fails (inv : Invocation) (surroundings : Surroundings) (m : Machine) : RunError → Machine → Prop
  | loading {path : Path} {e : ConfigError} {m' : Machine} (hpath : inv.config = some path)
      (h : Runs m (Config.load path).run (.error e) m') : Fails inv surroundings m (.loading path e) m'
  | settings {base : Config} {e : ConfigError} {m' : Machine} (h : Runs m (document inv).run (.ok base) m')
      (hbase : base.overlaid surroundings = .error e) : Fails inv surroundings m (.settings e) m'
  | command {config : Config} {e : RunError} {m₁ m' : Machine}
      (hconfig : Runs m (resolve inv surroundings).run (.ok config) m₁)
      (h : CommandFails ⟨config⟩ m₁ inv.command e m') : Fails inv surroundings m e m'

theorem runs_ofStore_error {α : Type} {o : Store.Work Location α} {e : RunError} :
    Runs m (ofStore o).run (.error e) m' ↔ ∃ fault, Runs m o.run (.error fault) m' ∧ e = .store fault := by
  rw [ofStore, Machine.runs_mapError]
  constructor
  · rintro ⟨fault | a, h, hx⟩
    · cases hx
      exact ⟨fault, h, rfl⟩
    · cases hx
  · rintro ⟨fault, h, rfl⟩
    exact ⟨.error fault, h, rfl⟩

theorem runs_ofStore_ok {α : Type} {o : Store.Work Location α} {a : α} :
    Runs m (ofStore o).run (.ok a) m' ↔ Runs m o.run (.ok a) m' := by
  rw [ofStore, Machine.runs_mapError]
  constructor
  · rintro ⟨fault | b, h, hx⟩
    · cases hx
    · cases hx
      exact h
  · exact fun h => ⟨.ok a, h, rfl⟩

/-- What comes after does not fail, so the first part did. -/
theorem runs_ofStore_bind_error {α : Type} {o : Store.Work Location α} {f : α → Work Location Unit}
    (hf : ∀ a m₁ e m₂, ¬ Runs m₁ (f a).run (.error e) m₂) {e : RunError} : Runs m (ofStore o >>= f).run (.error e) m' ↔
      ∃ fault, Runs m o.run (.error fault) m' ∧ e = .store fault := by
  rw [Machine.runs_operation_bind]
  constructor
  · rintro (⟨a, m₁, -, h⟩ | ⟨e', h, hx⟩)
    · exact absurd h (hf a m₁ e m')
    · cases hx
      exact runs_ofStore_error.1 h
  · rintro ⟨fault, h, rfl⟩
    exact .inr ⟨.store fault, runs_ofStore_error.2 ⟨fault, h, rfl⟩, rfl⟩

theorem not_runs_write_error {bytes : Bytes} {e : RunError} : ¬ Runs m (write bytes).run (.error e) m' :=
  fun h => by cases (runs_write.1 h).1

theorem not_runs_print_error {ts : List Text} {e : RunError} : ¬ Runs m (print ts).run (.error e) m' :=
  fun h => by cases (runs_print.1 h).1

/-- What is said about a payload that was stored cannot fail. -/
theorem not_runs_stored_error {i : Identity} {outcome : Outcome} {e : RunError} :
    ¬ Runs m (match outcome with
      | .written bytes => print [Report.written i bytes]
      | _ => return () : Work Location Unit).run (.error e) m' := by
  cases outcome with
  | written bytes => exact not_runs_print_error
  | _ => exact fun h => by cases (Machine.runs_pure.1 h).1

theorem runs_save_error {out : Path} {buffer : Bytes} {e : RunError} (h : Runs m (save out buffer).run (.error e) m') :
    (∃ failure, e = .output out failure) ∧ m'.printed = m.printed := by
  rw [save, Machine.runs_openEmptied_bind] at h
  rcases h with ⟨failure, he, rfl⟩ | ⟨loc, -, hdir, h⟩
  · exact ⟨⟨failure, Except.error.inj he⟩, rfl⟩
  · rcases Machine.runs_ask.1 h with ⟨_, -, hx⟩ | ⟨failure, hwrite, hx⟩
    · cases hx
    · rcases (Machine.answers_writeAll_filled hdir).1 hwrite with ⟨-, hx', -⟩ | ⟨-, _, rfl⟩
      · cases hx'
      · exact ⟨⟨failure, Except.error.inj hx⟩, rfl⟩

theorem pack_of_packedNames {buffer : Bytes} (h : Runs m s.packedNames.run (.ok buffer) m') :
    ∃ ids, NameRecord.pack ids = .ok buffer := by
  rw [Store.packedNames, Machine.runs_operation_bind] at h
  rcases h with ⟨ids, m₁, -, h⟩ | ⟨_, -, hx⟩
  · refine ⟨ids, ?_⟩
    cases hpack : NameRecord.pack ids with
    | error e =>
      rw [hpack] at h
      cases (Machine.runs_throw.1 h).1
    | ok packed =>
      rw [hpack] at h
      have hrest := Machine.runs_tell_bind.1 (Machine.runs_tell_bind.1 h)
      cases (Machine.runs_pure.1 hrest).1
      rfl
  · cases hx

/-- **A command fails where the store fails, or at a file that it is given**, and never once it prints. -/
theorem runs_execute_error_iff {command : Command} {e : RunError} :
    Runs m (execute s command).run (.error e) m' ↔ CommandFails s m command e m' := by
  constructor
  · intro h
    cases command with
    | get i raw =>
      cases raw with
      | true =>
        obtain ⟨fault, hfault, rfl⟩ := (runs_ofStore_bind_error fun _ _ _ _ => not_runs_write_error).1 h
        exact .store (.read hfault)
      | false =>
        obtain ⟨fault, hfault, rfl⟩ := (runs_ofStore_bind_error fun _ _ _ _ => not_runs_print_error).1 h
        exact .store (.readVariable hfault)
    | set i file attributes =>
      rcases Machine.runs_readFile_bind.1 h with ⟨payload, hpayload, h⟩ | ⟨failure, he, rfl⟩
      · obtain ⟨fault, hfault, rfl⟩ := (runs_ofStore_bind_error fun _ _ _ _ => not_runs_stored_error).1 h
        exact .store (.write hpayload hfault)
      · cases he
        exact .payload failure
    | delete i =>
      obtain ⟨fault, hfault, rfl⟩ := (runs_ofStore_bind_error fun _ _ _ _ => not_runs_print_error).1 h
      exact .store (.delete hfault)
    | list json =>
      obtain ⟨fault, hfault, rfl⟩ := (runs_ofStore_bind_error fun _ _ _ _ => not_runs_print_error).1 h
      exact .store (.list hfault)
    | names out decode =>
      rcases Machine.runs_operation_bind.1 h with ⟨buffer, m₁, hbuffer, hrest⟩ | ⟨e', hstore, he⟩
      · have hpacked := runs_ofStore_ok.1 hbuffer
        cases decode with
        | true =>
          -- what was packed is always decoded
          obtain ⟨ids, hpack⟩ := pack_of_packedNames hpacked
          simp only [if_true, NameRecord.decode_of_pack hpack] at hrest
          exact absurd hrest not_runs_print_error
        | false =>
          cases out with
          | none => exact absurd hrest not_runs_write_error
          | some path =>
            rcases Machine.runs_operation_bind.1 hrest with ⟨_, m₂, -, hshown⟩ | ⟨e', hsave, he⟩
            · exact absurd hshown not_runs_print_error
            · cases he
              obtain ⟨⟨failure, rfl⟩, -⟩ := runs_save_error hsave
              exact .output hpacked hsave
      · cases he
        obtain ⟨fault, hfault, rfl⟩ := runs_ofStore_error.1 hstore
        exact .store (.names hfault)
  · intro h
    cases h with
    | store h =>
      cases h with
      | read h => exact (runs_ofStore_bind_error fun _ _ _ _ => not_runs_write_error).2 ⟨_, h, rfl⟩
      | readVariable h => exact (runs_ofStore_bind_error fun _ _ _ _ => not_runs_print_error).2 ⟨_, h, rfl⟩
      | write hpayload h =>
        refine Machine.runs_readFile_bind.2 (.inl ⟨_, hpayload, ?_⟩)
        exact (runs_ofStore_bind_error fun _ _ _ _ => not_runs_stored_error).2 ⟨_, h, rfl⟩
      | delete h => exact (runs_ofStore_bind_error fun _ _ _ _ => not_runs_print_error).2 ⟨_, h, rfl⟩
      | list h => exact (runs_ofStore_bind_error fun _ _ _ _ => not_runs_print_error).2 ⟨_, h, rfl⟩
      | names h => exact Machine.runs_operation_bind.2 (.inr ⟨_, runs_ofStore_error.2 ⟨_, h, rfl⟩, rfl⟩)
    | payload failure => exact Machine.runs_readFile_bind.2 (.inr ⟨failure, rfl, rfl⟩)
    | output hbuffer h =>
      refine Machine.runs_operation_bind.2 (.inl ⟨_, _, runs_ofStore_ok.2 hbuffer, ?_⟩)
      exact Machine.runs_operation_bind.2 (.inr ⟨_, h, rfl⟩)

theorem runs_document_error_iff {e : RunError} : Runs m (document inv).run (.error e) m' ↔
    ∃ path fault, inv.config = some path ∧ Runs m (Config.load path).run (.error fault) m' ∧
      e = .loading path fault := by
  rw [document]
  cases inv.config with
  | none =>
    constructor
    · intro h
      cases (Machine.runs_pure.1 h).1
    · rintro ⟨_, _, hnone, -⟩
      cases hnone
  | some path =>
    simp only
    rw [Machine.runs_mapError]
    constructor
    · rintro ⟨fault | c, h, hx⟩
      · exact ⟨path, fault, rfl, h, Except.error.inj hx⟩
      · cases hx
    · rintro ⟨_, fault, hpath, h, rfl⟩
      cases hpath
      exact ⟨.error fault, h, rfl⟩

theorem runs_resolve_error_iff {e : RunError} : Runs m (resolve inv surroundings).run (.error e) m' ↔
    Runs m (document inv).run (.error e) m' ∨
      ∃ base fault, Runs m (document inv).run (.ok base) m' ∧ base.overlaid surroundings = .error fault ∧
        e = .settings fault := by
  rw [resolve, Machine.runs_operation_bind]
  constructor
  · rintro (⟨base, m₁, hbase, h⟩ | ⟨e', h, he⟩)
    · cases hoverlaid : base.overlaid surroundings with
      | error fault =>
        rw [hoverlaid] at h
        obtain ⟨he, rfl⟩ := Machine.runs_throw.1 h
        exact .inr ⟨base, fault, hbase, hoverlaid, Except.error.inj he⟩
      | ok c =>
        rw [hoverlaid] at h
        have hrest := Machine.runs_tell_bind.1 h
        cases (Machine.runs_pure.1 hrest).1
    · cases he
      exact .inl h
  · rintro (h | ⟨base, fault, hbase, hoverlaid, rfl⟩)
    · exact .inr ⟨e, h, rfl⟩
    · refine .inl ⟨base, m', hbase, ?_⟩
      rw [hoverlaid]
      exact Machine.runs_throw.2 ⟨rfl, rfl⟩

/-- **A run fails in these ways and no other.** -/
theorem runs_run_error_iff {e : RunError} :
    Runs m (run inv surroundings).run (.error e) m' ↔ Fails inv surroundings m e m' := by
  rw [run, Machine.runs_operation_bind]
  constructor
  · rintro (⟨config, m₁, hconfig, h⟩ | ⟨e', h, he⟩)
    · exact .command hconfig (runs_execute_error_iff.1 (runs_then_flush.1 h))
    · cases he
      rcases runs_resolve_error_iff.1 h with hdocument | ⟨base, fault, hbase, hfault, rfl⟩
      · obtain ⟨path, fault, hpath, hload, rfl⟩ := runs_document_error_iff.1 hdocument
        exact .loading hpath hload
      · exact .settings hbase hfault
  · intro h
    cases h with
    | loading hpath h =>
      have hdocument := runs_document_error_iff.2 ⟨_, _, hpath, h, rfl⟩
      exact .inr ⟨_, runs_resolve_error_iff.2 (.inl hdocument), rfl⟩
    | settings h hbase => exact .inr ⟨_, runs_resolve_error_iff.2 (.inr ⟨_, _, h, hbase, rfl⟩), rfl⟩
    | command hconfig h => exact .inl ⟨_, _, hconfig, runs_then_flush.2 (runs_execute_error_iff.2 h)⟩

/-! ## What failure leaves behind -/

/-- The write of a variable broke off, or of the file that the names go to. -/
inductive WriteFails : Command → RunError → Prop
  | variable {i : Identity} {file path : Path} {attributes : Option UInt32} {failure : Failure} :
      WriteFails (.set i file attributes) (.store (.host .write path failure))
  | output {out : Path} {failure : Failure} : WriteFails (.names (some out) false) (.output out failure)

/-- What a failure leaves: nothing was printed, and no file was changed unless a write broke off. -/
structure Kept (m : Machine) (command : Command) (e : RunError) (m' : Machine) : Prop where
  printed : m'.printed = m.printed
  files : m'.files = m.files ∨ WriteFails command e

theorem kept_of_quiet {α : Type} {script : Script Location α} {a : α} {command : Command} {e : RunError}
    (h : Runs m script a m') (hs : script.Asks Request.IsQuiet) : Kept m command e m' := by
  obtain ⟨events, rfl⟩ := Machine.heard_of_quiet hs h
  exact ⟨rfl, .inl rfl⟩

theorem StoreFails.kept {command : Command} {e : StoreError} (h : StoreFails s m command e m') :
    Kept m command (.store e) m' := by
  have htell (event : Event) : @Request.IsQuiet Location _ (.tell event) := trivial
  cases h with
  | read h => exact kept_of_quiet h (Store.asks_read htell trivial)
  | readVariable h => exact kept_of_quiet h (Store.asks_readVariable htell trivial)
  | write hpayload h =>
    rcases Store.failed_write_some h with ⟨-, rfl⟩ | ⟨-, _, _, _, rfl, -, -, rfl⟩
    · exact ⟨rfl, .inl rfl⟩
    · exact ⟨rfl, .inr .variable⟩
  | delete h =>
    obtain ⟨-, rfl⟩ := Store.failed_delete h
    exact ⟨rfl, .inl rfl⟩
  | list h => exact kept_of_quiet h (Store.asks_list htell trivial)
  | names h => exact kept_of_quiet h (Store.asks_packedNames htell trivial)

theorem CommandFails.kept {command : Command} {e : RunError} (h : CommandFails s m command e m') :
    Kept m command e m' := by
  cases h with
  | store h => exact h.kept
  | payload failure => exact ⟨rfl, .inl rfl⟩
  | output hbuffer h =>
    have hquiet : (s.packedNames : Store.Work Location Bytes).run.Asks Request.IsQuiet :=
      Store.asks_packedNames (fun _ => trivial) trivial
    obtain ⟨events, rfl⟩ := Machine.heard_of_quiet hquiet hbuffer
    exact ⟨(runs_save_error h).2, .inr .output⟩

/-- **A run that failed has printed nothing and changed no file**, unless a write broke off. -/
theorem Fails.kept {e : RunError} (h : Fails inv surroundings m e m') : Kept m inv.command e m' := by
  cases h with
  | loading hpath h => exact kept_of_quiet h (asks_load _)
  | settings h hbase => exact kept_of_quiet h (asks_document inv)
  | command hconfig h =>
    obtain ⟨events, rfl⟩ := heard_of_resolve hconfig
    obtain ⟨hprinted, hfiles⟩ := h.kept
    exact ⟨hprinted, hfiles⟩

/-! ## Exit statuses -/

theorem exitStatus_store (e : StoreError) : (RunError.store e).exitStatus = e.code := if_pos (StoreError.code_lt e).2

theorem exitStatus_pos (e : RunError) : 0 < e.exitStatus := by
  cases e with
  | store e =>
    rw [exitStatus_store]
    exact (StoreError.code_lt e).1
  | _ => exact Nat.one_pos

theorem exitStatus_eq_zero_iff {x : Except RunError Unit} : exitStatus x = 0 ↔ x = .ok () := by
  cases x with
  | ok _ => exact ⟨fun _ => rfl, fun _ => rfl⟩
  | error e => simp [exitStatus, Nat.pos_iff_ne_zero.1 (exitStatus_pos e)]

theorem status_eq_zero_iff :
    (ending m inv surroundings).status = 0 ↔ (m.run (run inv surroundings).run).1 = .ok () := by
  rw [status_ending, exitStatus_eq_zero_iff]

theorem exitStatus_eq_notFound_iff {e : RunError} : e.exitStatus = 203 ↔ ∃ path, e = .store (.notFound path) := by
  cases e with
  | store e =>
    rw [exitStatus_store]
    cases e <;> simp [StoreError.code, StoreError.status, Status.code]
  | _ => simp [RunError.exitStatus]

theorem output_of_failed (h : (ending m inv surroundings).status ≠ 0) : (ending m inv surroundings).output = [] := by
  rcases hrun : Machine.run { m with printed := [] } (run inv surroundings).run with ⟨e | _, after⟩
  · have hkept := (runs_run_error_iff.1 (Machine.runs_of_run hrun)).kept
    rw [ending, hrun, Ending.of, hkept.printed]
    rfl
  · rw [ending, hrun] at h
    exact absurd rfl h

/-! ## Absence -/

/-- What a command looks for is not there: the variable, or the store as a whole. -/
inductive Absent (s : Store) (fs : FileSystem) (cwd : Location) : Command → Prop
  | get {i : Identity} {raw : Bool} (ha : Addressable i) (h : fs.nodeAt cwd (s.variablePath i) = .error .noEntry) :
      Absent s fs cwd (.get i raw)
  | list {json : Bool} (h : fs.nodeAt cwd s.root = .error .noEntry) : Absent s fs cwd (.list json)
  | names {out : Option Path} {decode : Bool} (h : fs.nodeAt cwd s.root = .error .noEntry) :
      Absent s fs cwd (.names out decode)

theorem ofFailure_eq_notFound_iff {step : Step} {p : Path} {failure : Failure} :
    (∃ path, StoreError.ofFailure step p failure = .notFound path) ↔ failure = .noEntry := by
  cases failure <;> simp [StoreError.ofFailure]

theorem read_notFound_iff {i : Identity} : (∃ path, (m.run (s.read i).run).1 = .error (.notFound path)) ↔
    Addressable i ∧ m.files.nodeAt m.cwd (s.variablePath i) = .error .noEntry := by
  by_cases ha : Addressable i
  · rw [← FileSystem.read_eq_noEntry_iff]
    cases hread : m.files.read m.cwd (s.variablePath i) with
    | ok bytes => simp [Store.run_read_of_ok ha hread]
    | error failure => simp [Store.run_read_of_error ha hread, ha, ofFailure_eq_notFound_iff]
  · simp [Store.run_read_refused ha, ha, Store.refused]

theorem readVariable_notFound_iff {i : Identity} :
    (∃ path, (m.run (s.readVariable i).run).1 = .error (.notFound path)) ↔
      Addressable i ∧ m.files.nodeAt m.cwd (s.variablePath i) = .error .noEntry := by
  by_cases ha : Addressable i
  · rw [← FileSystem.read_eq_noEntry_iff]
    cases hread : m.files.read m.cwd (s.variablePath i) with
    | ok bytes => cases hv : Variable.ofBytes? bytes <;> simp [Store.run_readVariable_of_ok ha hread, hv]
    | error failure => simp [Store.run_readVariable_of_error ha hread, ha, ofFailure_eq_notFound_iff]
  · simp [Store.run_readVariable_refused ha, ha, Store.refused]

theorem list_notFound_iff : (∃ path, (m.run s.list.run).1 = .error (.notFound path)) ↔
    m.files.nodeAt m.cwd s.root = .error .noEntry := by
  rw [← FileSystem.list_eq_noEntry_iff]
  cases hlist : m.files.list m.cwd s.root with
  | error failure => simp [Store.run_list_refused hlist, ofFailure_eq_notFound_iff]
  | ok raws =>
    constructor
    · rintro ⟨path, h⟩
      obtain ⟨entry, fault, he⟩ := Store.entry_of_refused hlist h
      cases he
    · intro h
      cases h

theorem packedNames_notFound_iff : (∃ path, (m.run s.packedNames.run).1 = .error (.notFound path)) ↔
    m.files.nodeAt m.cwd s.root = .error .noEntry := by
  rw [← list_notFound_iff, Store.fst_run_packedNames]
  cases hlist : (m.run s.list.run).1 with
  | error e => simp [Except.bind]
  | ok ids =>
    have hnaming (e : NamingError) (path : Path) : StoreError.ofNaming e ≠ .notFound path := by
      cases e <;> simp [StoreError.ofNaming]
    cases hpack : NameRecord.pack ids <;> simp [Except.bind, Except.mapError, hpack, hnaming]

theorem ofStore_eq_error_iff {α : Type} {o : Store.Work Location α} {e : StoreError} :
    (m.run (ofStore o).run).1 = .error (.store e) ↔ (m.run o.run).1 = .error e := by
  rw [ofStore, Machine.fst_run_mapError]
  cases (m.run o.run).1 <;> simp [Except.mapError]

theorem ofStore_bind_eq_error_iff {α : Type} {o : Store.Work Location α} {f : α → Work Location Unit}
    (hf : ∀ (a : α) (m : Machine) (e : StoreError), (m.run (f a).run).1 ≠ .error (.store e)) {e : StoreError} :
    (m.run (ofStore o >>= f).run).1 = .error (.store e) ↔ (m.run o.run).1 = .error e := by
  rw [← ofStore_eq_error_iff]
  rcases hrun : m.run (ofStore o).run with ⟨e' | a, m₁⟩
  · rw [Machine.run_bind_of_error hrun]
    simp
  · rw [Machine.run_bind_of_ok hrun]
    simp [hf a m₁ e]

theorem write_ne_store (bytes : Bytes) (m : Machine) (e : StoreError) :
    (m.run (write bytes).run).1 ≠ .error (.store e) := fun h => by cases (prints_write bytes m).ok.symm.trans h

theorem print_ne_store (ts : List Text) (m : Machine) (e : StoreError) :
    (m.run (print ts).run).1 ≠ .error (.store e) := fun h => by cases (prints_print ts m).ok.symm.trans h

/-- **The host says that there is no such file where there is none.** -/
theorem execute_notFound_iff {command : Command} :
    (∃ path, (m.run (execute s command).run).1 = .error (.store (.notFound path))) ↔
      Absent s m.files m.cwd command := by
  cases command with
  | get i raw =>
    have habsent : Addressable i ∧ m.files.nodeAt m.cwd (s.variablePath i) = .error .noEntry ↔
        Absent s m.files m.cwd (.get i raw) := ⟨fun h => .get h.1 h.2, fun | .get ha h => ⟨ha, h⟩⟩
    rw [← habsent]
    cases raw with
    | true =>
      exact (exists_congr fun _ => ofStore_bind_eq_error_iff fun _ => write_ne_store _).trans read_notFound_iff
    | false =>
      exact (exists_congr fun _ => ofStore_bind_eq_error_iff fun _ => print_ne_store _).trans readVariable_notFound_iff
  | set i file attributes =>
    constructor
    · rintro ⟨path, h⟩
      have hrun := Machine.runs_run (execute s (.set i file attributes)).run m
      rw [h] at hrun
      cases runs_execute_error_iff.1 hrun with
      | store hstore =>
        cases hstore with
        | write hpayload hwrite =>
          exfalso
          rcases Store.failed_write_some hwrite with ⟨hx | ⟨_, hx⟩, -⟩ | ⟨-, _, _, _, hx, -⟩ <;> cases hx
    · intro h
      cases h
  | delete i =>
    constructor
    · rintro ⟨path, h⟩
      have hrun := Machine.runs_run (execute s (.delete i)).run m
      rw [h] at hrun
      cases runs_execute_error_iff.1 hrun with
      | store hstore =>
        cases hstore with
        | delete hdelete =>
          exfalso
          rcases (Store.failed_delete hdelete).1 with hx | ⟨_, hx⟩ <;> cases hx
    · intro h
      cases h
  | list json =>
    have habsent : m.files.nodeAt m.cwd s.root = .error .noEntry ↔ Absent s m.files m.cwd (.list json) :=
      ⟨.list, fun | .list h => h⟩
    rw [← habsent]
    exact (exists_congr fun _ => ofStore_bind_eq_error_iff fun _ => print_ne_store _).trans list_notFound_iff
  | names out decode =>
    have habsent : m.files.nodeAt m.cwd s.root = .error .noEntry ↔ Absent s m.files m.cwd (.names out decode) :=
      ⟨.names, fun | .names h => h⟩
    rw [← habsent]
    refine (exists_congr fun _ => ofStore_bind_eq_error_iff fun buffer m₁ e => ?_).trans packedNames_notFound_iff
    -- what is done with the names once they are packed is not the store's work
    cases decode with
    | true =>
      simp only [if_true]
      cases NameRecord.decode buffer with
      | ok records => exact print_ne_store _ _ _
      | error fault => exact fun h => by cases h
    | false =>
      cases out with
      | none => exact write_ne_store _ _ _
      | some path =>
        intro h
        have hrun : Runs m₁ (save path buffer >>= fun _ => print [Report.saved path buffer.length]).run
          (.error (.store e)) _ := Machine.runs_of_run (Prod.ext h rfl)
        rcases Machine.runs_operation_bind.1 hrun with ⟨_, m₂, -, hshown⟩ | ⟨e', hsave, he⟩
        · exact not_runs_print_error hshown
        · cases he
          obtain ⟨⟨failure, hfailure⟩, -⟩ := runs_save_error hsave
          cases hfailure

theorem run_notFound_iff : (∃ path, (m.run (run inv surroundings).run).1 = .error (.store (.notFound path))) ↔
    ∃ config, (m.run (resolve inv surroundings).run).1 = .ok config ∧ Absent ⟨config⟩ m.files m.cwd inv.command := by
  cases hresolve : (m.run (resolve inv surroundings).run).1 with
  | error e =>
    have hresolved : m.run (resolve inv surroundings).run = (.error e, (m.run (resolve inv surroundings).run).2) :=
      Prod.ext hresolve rfl
    have hne (path : Path) : e ≠ .store (.notFound path) := by
      rintro rfl
      rcases runs_resolve_error_iff.1 (Machine.runs_of_run hresolved) with hdocument | ⟨_, _, -, -, he⟩
      · obtain ⟨_, _, -, -, he⟩ := runs_document_error_iff.1 hdocument
        cases he
      · cases he
    rw [run, Machine.run_bind_of_error hresolved]
    simp [hne]
  | ok config =>
    obtain ⟨events, hrun⟩ := run_of_command rfl hresolve
    rw [hrun, execute_notFound_iff]
    constructor
    · exact fun h => ⟨config, rfl, h⟩
    · rintro ⟨_, hconfig, h⟩
      cases hconfig
      exact h

/-- A variable is absent with its root. -/
theorem absent_get_of_root {i : Identity} {raw : Bool} (ha : Addressable i) (hr : m.files.Rooted)
    (hroot : s.root.bytes ≠ []) (hlen : (s.variablePath i).bytes.length < FileSystem.pathLimit)
    (h : m.files.nodeAt m.cwd s.root = .error .noEntry) : Absent s m.files m.cwd (.get i raw) :=
  .get ha (FileSystem.nodeAt_join_of_absent hroot h hr (EntryName.isSingle_encode ha) hlen)

theorem absent_get_iff {i : Identity} {raw : Bool} (ha : Addressable i) (hf : s.Fits i) {dir : Location}
    (hroot : FileSystem.LeadsTo m.files m.cwd s.root dir)
    (hlink : ∀ target, m.files.lookup (dir ++ [Utf8.encode i.spell]) ≠ some (.link target)) :
    Absent s m.files m.cwd (.get i raw) ↔ m.files.lookup (dir ++ [Utf8.encode i.spell]) = none := by
  rw [← hroot.nodeAt_join_eq_noEntry_iff (EntryName.isEntry_encode ha hf.entry) hf.path hlink]
  exact ⟨fun | .get _ h => h, fun h => .get ha h⟩

/-- **A run that fails is clean, and its exit status says what failed.**  The status is zero exactly when the run
succeeded.  A run that failed, in one of the ways of `Fails`, asked for nothing to be printed; its status is the code of
the store's error if the store failed and one otherwise, and it changed no file unless a write broke off.  The status 203
says that the store did not find something: on a host that refuses nothing without need, the variable that a `get` is
about or the store that a `list` or `names` is about.  A variable is absent when its root is, and in a root that is there
when its entry is free. -/
theorem failing_run_clean (inv : Invocation) (surroundings : Surroundings) (m : Machine) :
    (∀ x, exitStatus x = 0 ↔ x = .ok ()) ∧
    (∀ e m', Runs m (run inv surroundings).run (.error e) m' ↔ Fails inv surroundings m e m') ∧
    (∀ e m', Runs m (run inv surroundings).run (.error e) m' →
      m'.printed = m.printed ∧
      exitStatus (.error e) = (match e with | .store fault => fault.code | _ => 1) ∧
      (exitStatus (.error e) = 203 ↔ ∃ path, e = .store (.notFound path)) ∧
      (m'.files = m.files ∨ WriteFails inv.command e)) ∧
    ((ending m inv surroundings).status = 0 ↔ (m.run (run inv surroundings).run).1 = .ok ()) ∧
    ((ending m inv surroundings).status ≠ 0 → (ending m inv surroundings).output = []) ∧
    ((ending m inv surroundings).status = 203 ↔
      ∃ config, (m.run (resolve inv surroundings).run).1 = .ok config ∧ Absent ⟨config⟩ m.files m.cwd inv.command) ∧
    ∀ (s : Store) (i : Identity) (raw : Bool), Addressable i → s.Fits i →
      (m.files.Rooted → s.root.bytes ≠ [] → m.files.nodeAt m.cwd s.root = .error .noEntry →
        Absent s m.files m.cwd (.get i raw)) ∧
      ∀ dir, FileSystem.LeadsTo m.files m.cwd s.root dir →
        (∀ target, m.files.lookup (dir ++ [Utf8.encode i.spell]) ≠ some (.link target)) →
        (Absent s m.files m.cwd (.get i raw) ↔ m.files.lookup (dir ++ [Utf8.encode i.spell]) = none) := by
  refine ⟨fun x => exitStatus_eq_zero_iff, fun e m' => runs_run_error_iff, fun e m' h => ?_, status_eq_zero_iff,
    output_of_failed, ?_, fun s i raw ha hf => ⟨?_, ?_⟩⟩
  · -- a run fails in the ways of `Fails` only, and none of them comes after a write to the standard output
    obtain ⟨hprinted, hfiles⟩ := (runs_run_error_iff.1 h).kept
    refine ⟨hprinted, ?_, exitStatus_eq_notFound_iff, hfiles⟩
    cases e with
    | store fault => exact exitStatus_store fault
    | _ => rfl
  · rw [← run_notFound_iff, status_ending]
    cases (m.run (run inv surroundings).run).1 with
    | ok _ => simp [exitStatus]
    | error e => simp [exitStatus, exitStatus_eq_notFound_iff]
  · exact fun hr hroot h => absent_get_of_root ha hr hroot hf.path h
  · exact fun dir hroot hlink => absent_get_iff ha hf hroot hlink

/-- The names of a store that is not there, asked for in a file that is, after something else was printed. -/
theorem failing_run_clean_names :
    let inv : Invocation := ⟨none, none, .names (some ⟨[0x6F]⟩) false⟩
    let surroundings : Surroundings := ⟨some [0x64], none⟩
    let s : Store := .atRoot ⟨[0x64]⟩
    let i : Identity := ⟨['B'], ⟨0, 0, 0, 0⟩⟩
    let m : Machine := ⟨⟨[([[0x6F]], .file [1])]⟩, [], [], [[0x21]]⟩
    let there : Machine := ⟨⟨[([[0x64]], .directory)]⟩, [], [], []⟩
    let e : RunError := .store (.notFound ⟨[0x64]⟩)
    let after := (m.run (run inv surroundings).run).2
    Runs m (run inv surroundings).run (.error e) after ∧ exitStatus (.error e) = 203 ∧ after.printed = [[0x21]] ∧
      after.files = m.files ∧ (ending m inv surroundings).status ≠ 0 ∧ (ending m inv surroundings).output = [] ∧
      Addressable i ∧ s.Fits i ∧ m.files.Rooted ∧
      m.files.nodeAt m.cwd s.root = .error .noEntry ∧ Absent s m.files m.cwd (.get i true) ∧
      FileSystem.LeadsTo there.files there.cwd s.root [[0x64]] ∧ Absent s there.files there.cwd (.get i true) := by
  intro inv surroundings s i m there e after
  have hfst : (m.run (run inv surroundings).run).1 = .error e := by decide +kernel
  have hrun : Runs m (run inv surroundings).run (.error e) after := Machine.runs_of_run (Prod.ext hfst rfl)
  have ha : Addressable i := by decide
  have hf : s.Fits i := ⟨by decide +kernel, by decide +kernel⟩
  have hrooted : m.files.Rooted := by decide +kernel
  have habsent : m.files.nodeAt m.cwd s.root = .error .noEntry := by decide +kernel
  have hthere : FileSystem.LeadsTo there.files there.cwd s.root [[0x64]] := ⟨rfl, rfl⟩
  obtain ⟨-, -, hfail, hzero, houtput, -, hget⟩ := failing_run_clean inv surroundings m
  obtain ⟨hprinted, -, hnotFound, hfiles⟩ := hfail e after hrun
  obtain ⟨-, -, -, -, -, -, hget'⟩ := failing_run_clean inv surroundings there
  have hstatus : (ending m inv surroundings).status ≠ 0 := fun h => by cases hfst.symm.trans (hzero.1 h)
  have hnot {out path : Path} : ¬ WriteFails (.names (some out) false) (.store (.notFound path)) := fun h => by cases h
  have hfree : there.files.lookup ([[0x64]] ++ [Utf8.encode i.spell]) = none := by decide +kernel
  refine ⟨hrun, hnotFound.2 ⟨_, rfl⟩, hprinted, ?_, hstatus, houtput hstatus, ha, hf, hrooted, habsent,
    (hget s i true ha hf).1 hrooted (by decide) habsent, hthere, ((hget' s i true ha hf).2 _ hthere fun target => ?_).2 hfree⟩
  · exact hfiles.resolve_right hnot
  · rw [hfree]
    exact fun h => by cases h

end Program
end FirmwareVars
