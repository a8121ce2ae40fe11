import FirmwareVars.Proofs.Host.Absent
import FirmwareVars.Proofs.Store.Access
/-!
# Two ways to read

A variable can be read as bytes or taken apart.  On any host the second is the first with the bytes taken apart
(`outcome_readVariable`), and the first fails in the three ways of `ReadFails`, so the two agree in everything but files
that are too short for an attribute word (`reads_agree`).
-/
namespace FirmwareVars

open EntryName (Addressable)
open FileSystem (LeadsTo)

theorem StoreError.ofFailure_of_ne {step : Step} {path : Path} {failure : Failure} (h : failure ≠ .noEntry) :
    ofFailure step path failure = .host step path failure := by
  cases failure with
  | noEntry => exact absurd rfl h
  | _ => rfl

namespace Store

section Hosts

variable {σ Handle : Type} (host : {β : Type} → Request Handle β → StateM σ β) (st : σ) (s : Store) (i : Identity)

/-- A variable cannot be read, where the host is in a given state: it has no entry name, or the host has no such entry,
or refuses to read it for another reason. -/
inductive ReadFails : StoreError → Prop
  | refused (h : ¬ Addressable i) : ReadFails (refused i)
  | absent (ha : Addressable i) (h : (host (.readFile (s.variablePath i)) st).1 = .error .noEntry) :
      ReadFails (.notFound (s.variablePath i))
  | host {failure : Failure} (ha : Addressable i)
      (h : (host (.readFile (s.variablePath i)) st).1 = .error failure) (hne : failure ≠ .noEntry) :
      ReadFails (.host .read (s.variablePath i) failure)

variable {host st s i}

theorem outcome_readEntry (path : Path) :
    (readEntry path).outcome host st = (host (.readFile path) st).1.mapError (.ofFailure .read path) := by
  have hrest : (readEntry path).outcome host st =
      ((Operation.ask (.readFile path) (StoreError.ofFailure .read path)).outcome host st).bind .ok :=
    Operation.outcome_bind host st fun _ _ => rfl
  rw [hrest, Operation.outcome_ask]
  cases (host (.readFile path) st).1 <;> rfl

theorem outcome_read (ha : Addressable i) : (s.read i).outcome host st =
    (host (.readFile (s.variablePath i)) st).1.mapError (.ofFailure .read (s.variablePath i)) := by
  rw [read, bind_entryPath s _ ha, outcome_readEntry]

theorem outcome_read_refused (h : ¬ Addressable i) : (s.read i).outcome host st = .error (refused i) := by
  rw [read_refused h]
  rfl

/-- **The parsed read takes apart what the raw read gives**, and fails as that fails. -/
theorem outcome_readVariable : (s.readVariable i).outcome host st = ((s.read i).outcome host st).bind fun raw =>
    (Variable.ofBytes? raw).elim (.error (.truncated (s.variablePath i) raw.length)) .ok := by
  by_cases ha : Addressable i
  · rw [readVariable, bind_entryPath s _ ha, read, bind_entryPath s _ ha]
    refine Operation.outcome_bind host st fun raw st => ?_
    cases Variable.ofBytes? raw <;> rfl
  · rw [readVariable_refused ha, read_refused ha]
    rfl

theorem outcome_read_eq_error_iff {e : StoreError} :
    (s.read i).outcome host st = .error e ↔ ReadFails host st s i e := by
  by_cases ha : Addressable i
  · rw [outcome_read ha]
    constructor
    · intro h
      cases hread : (host (.readFile (s.variablePath i)) st).1 with
      | ok raw =>
        rw [hread] at h
        cases h
      | error failure =>
        rw [hread] at h
        obtain rfl := Except.error.inj h
        by_cases hne : failure = .noEntry
        · rw [hne] at hread ⊢
          exact .absent ha hread
        · rw [StoreError.ofFailure_of_ne hne]
          exact .host ha hread hne
    · intro h
      cases h with
      | refused hno => exact absurd ha hno
      | absent _ hread =>
        rw [hread]
        rfl
      | host _ hread hne =>
        rw [hread, ← StoreError.ofFailure_of_ne hne]
        rfl
  · rw [outcome_read_refused ha]
    constructor
    · intro h
      cases h
      exact .refused ha
    · intro h
      cases h with
      | refused => rfl
      | absent hyes => exact absurd hyes ha
      | host hyes => exact absurd hyes ha

theorem outcome_readVariable_eq_ok_iff {v : Variable} :
    (s.readVariable i).outcome host st = .ok v ↔ (s.read i).outcome host st = .ok v.toBytes := by
  rw [outcome_readVariable]
  cases (s.read i).outcome host st with
  | error e => simp [Except.bind]
  | ok raw =>
    simp only [Except.bind, Except.ok.injEq, ← Variable.ofBytes?_eq_some_iff]
    cases Variable.ofBytes? raw <;> simp

theorem ReadFails.ne_truncated {e : StoreError} (h : ReadFails host st s i e) (path : Path) (n : Nat) :
    e ≠ .truncated path n := by
  cases h <;> exact fun heq => by cases heq

theorem entryPath_of_read {raw : Bytes} (h : (s.read i).outcome host st = .ok raw) :
    s.entryPath i = .ok (s.variablePath i) := by
  by_cases ha : Addressable i
  · exact entryPath_of_addressable ha
  · rw [outcome_read_refused ha] at h
    cases h

theorem outcome_readVariable_eq_truncated_iff {path : Path} {n : Nat} :
    (s.readVariable i).outcome host st = .error (.truncated path n) ↔
      s.entryPath i = .ok path ∧ n < 4 ∧ ∃ raw, (s.read i).outcome host st = .ok raw ∧ raw.length = n := by
  rw [outcome_readVariable]
  cases hread : (s.read i).outcome host st with
  | error e => simp [Except.bind, (outcome_read_eq_error_iff.1 hread).ne_truncated path n]
  | ok raw =>
    simp only [Except.bind, entryPath_of_read hread, Except.ok.injEq, exists_eq_left']
    cases hv : Variable.ofBytes? raw with
    | none =>
      have hshort := Variable.ofBytes?_eq_none_iff.1 hv
      rw [Variable.wordLength] at hshort
      simp only [Option.elim_none, Except.error.injEq, StoreError.truncated.injEq]
      exact ⟨fun ⟨hpath, hn⟩ => ⟨hpath, hn ▸ hshort, hn⟩, fun ⟨hpath, _, hn⟩ => ⟨hpath, hn⟩⟩
    | some v =>
      have hlong := Variable.wordLength_le_iff.2 ⟨v, Variable.ofBytes?_eq_some_iff.1 hv⟩
      rw [Variable.wordLength] at hlong
      simp only [Option.elim_some, reduceCtorEq, false_iff, not_and]
      rintro - hn rfl
      omega

/-- **All other errors are those of both.** -/
theorem outcome_read_eq_error_iff_readVariable {e : StoreError} : (s.read i).outcome host st = .error e ↔
    (s.readVariable i).outcome host st = .error e ∧ ∀ path n, e ≠ .truncated path n := by
  constructor
  · intro h
    refine ⟨?_, (outcome_read_eq_error_iff.1 h).ne_truncated⟩
    rw [outcome_readVariable, h]
    rfl
  · rintro ⟨h, hne⟩
    rw [outcome_readVariable] at h
    cases hread : (s.read i).outcome host st with
    | error e' =>
      rw [hread] at h
      cases h
      rfl
    | ok raw =>
      rw [hread] at h
      cases hv : Variable.ofBytes? raw with
      | none =>
        simp only [Except.bind, hv] at h
        exact absurd (Except.error.inj h).symm (hne _ _)
      | some v =>
        simp only [Except.bind, hv] at h
        cases h

end Hosts

/-! ## On a machine -/

variable {m : Machine} {s : Store} {i : Identity}

/-- **A variable is not found exactly when there is nothing at its path.** -/
theorem run_read_eq_notFound_iff {path : Path} : (m.run (s.read i).run).1 = .error (.notFound path) ↔
    s.entryPath i = .ok path ∧ m.files.nodeAt m.cwd path = .error .noEntry := by
  have hread (p : Path) : (Machine.host (.readFile p) m).1 = m.files.read m.cwd p := rfl
  rw [Machine.fst_run, outcome_read_eq_error_iff]
  constructor
  · intro h
    cases h with
    | absent ha h =>
      rw [hread, FileSystem.read_eq_noEntry_iff] at h
      exact ⟨entryPath_of_addressable ha, h⟩
  · rintro ⟨hpath, h⟩
    by_cases ha : Addressable i
    · rw [entryPath_of_addressable ha] at hpath
      cases hpath
      exact .absent ha (by rw [hread, FileSystem.read_eq_noEntry_iff]; exact h)
    · rw [entryPath_of_not_addressable ha] at hpath
      cases hpath

theorem snd_run_readVariable : (m.run (s.readVariable i).run).2 = (m.run (s.read i).run).2 := by
  by_cases ha : Addressable i
  · cases hread : m.files.read m.cwd (s.variablePath i) with
    | ok raw => rw [run_readVariable_of_ok ha hread, run_read_of_ok ha hread]
    | error failure => rw [run_readVariable_of_error ha hread, run_read_of_error ha hread]
  · rw [run_readVariable_refused ha, run_read_refused ha]

/-- **The raw and the parsed read agree.**  On any host and in any state of it, a variable is read in parsed form exactly
when it is read raw as the bytes of that variable, and it is too short, with its path and length, exactly when fewer
than four bytes are read raw.  Every other error is one of both: the identity has no entry name, the host has no such
entry, or it refuses to read it for another reason.  On a machine the second is the case when there is nothing at the
path of the variable, so in a root that is there when its entry is free, and both leave the same machine behind.
Variables and byte strings of four bytes or more determine each other, whatever bits the attribute word has. -/
theorem reads_agree (s : Store) (i : Identity) :
    (∀ {σ Handle : Type} (host : {β : Type} → Request Handle β → StateM σ β) (st : σ),
      (∀ v, (s.readVariable i).outcome host st = .ok v ↔ (s.read i).outcome host st = .ok v.toBytes) ∧
      (∀ path n, (s.readVariable i).outcome host st = .error (.truncated path n) ↔
        s.entryPath i = .ok path ∧ n < 4 ∧ ∃ raw, (s.read i).outcome host st = .ok raw ∧ raw.length = n) ∧
      (∀ e, (s.read i).outcome host st = .error e ↔
        (s.readVariable i).outcome host st = .error e ∧ ∀ path n, e ≠ .truncated path n) ∧
      ∀ e, (s.read i).outcome host st = .error e ↔ ReadFails host st s i e) ∧
    (∀ m : Machine,
      (∀ path, (m.run (s.read i).run).1 = .error (.notFound path) ↔
        s.entryPath i = .ok path ∧ m.files.nodeAt m.cwd path = .error .noEntry) ∧
      (∀ dir, Addressable i → s.Fits i → LeadsTo m.files m.cwd s.root dir →
        (∀ target, m.files.lookup (dir ++ [Utf8.encode i.spell]) ≠ some (.link target)) →
        ((m.run (s.read i).run).1 = .error (.notFound (s.variablePath i)) ↔
          m.files.lookup (dir ++ [Utf8.encode i.spell]) = none)) ∧
      (m.run (s.readVariable i).run).2 = (m.run (s.read i).run).2) ∧
    (∀ raw v, Variable.ofBytes? raw = some v ↔ raw = v.toBytes) ∧
    ∀ raw : Bytes, 4 ≤ raw.length ↔ ∃ v : Variable, raw = v.toBytes := by
  refine ⟨fun host st => ?_, fun m => ?_, fun raw v => Variable.ofBytes?_eq_some_iff,
    fun raw => Variable.wordLength_le_iff⟩
  · exact ⟨fun v => outcome_readVariable_eq_ok_iff, fun path n => outcome_readVariable_eq_truncated_iff,
      fun e => outcome_read_eq_error_iff_readVariable, fun e => outcome_read_eq_error_iff⟩
  · refine ⟨fun path => run_read_eq_notFound_iff, fun dir ha hf hroot hlink => ?_, snd_run_readVariable⟩
    rw [run_read_eq_notFound_iff, entryPath_of_addressable ha,
      ← hroot.nodeAt_join_eq_noEntry_iff (EntryName.isEntry_encode ha hf.entry) hf.path hlink]
    exact ⟨And.right, fun h => ⟨rfl, h⟩⟩

/-- A file of three bytes, one of four with the highest bit of the word, and an entry that is free. -/
theorem reads_agree_short :
    let i (name : Char) : Identity := ⟨[name], ⟨0, 0, 0, 0⟩⟩
    let s : Store := .atRoot ⟨[0x64]⟩
    let place (name : Char) : Location := [[0x64], Utf8.encode (i name).spell]
    let m : Machine := ⟨⟨[([[0x64]], .directory), (place 'A', .file [7, 0, 0]), (place 'B', .file [0, 0, 0, 0x80])]⟩, [], [], []⟩
    (m.run (s.readVariable (i 'A')).run).1 = .error (.truncated (s.variablePath (i 'A')) 3) ∧
    (m.run (s.readVariable (i 'B')).run).1 = .ok ⟨⟨0x80000000⟩, []⟩ ∧
    Addressable (i 'C') ∧ s.Fits (i 'C') ∧ LeadsTo m.files m.cwd s.root [[0x64]] ∧
    (m.run (s.read (i 'C')).run).1 = .error (.notFound (s.variablePath (i 'C'))) ∧
    (m.run (s.readVariable (i 'C')).run).1 = .error (.notFound (s.variablePath (i 'C'))) := by
  intro i s place m
  have hshort : (m.run (s.read (i 'A')).run).1 = .ok [7, 0, 0] := by decide +kernel
  have hbare : (m.run (s.read (i 'B')).run).1 = .ok (⟨⟨0x80000000⟩, []⟩ : Variable).toBytes := by decide +kernel
  have hpath : s.entryPath (i 'A') = .ok (s.variablePath (i 'A')) := by decide +kernel
  have ha : Addressable (i 'C') := by decide
  have hf : s.Fits (i 'C') := ⟨by decide +kernel, by decide +kernel⟩
  have hroot : LeadsTo m.files m.cwd s.root [[0x64]] := ⟨rfl, rfl⟩
  have hfree : m.files.lookup ([[0x64]] ++ [Utf8.encode (i 'C').spell]) = none := by decide +kernel
  obtain ⟨hA, -⟩ := reads_agree s (i 'A')
  obtain ⟨hB, -⟩ := reads_agree s (i 'B')
  obtain ⟨hC, hmachine, -⟩ := reads_agree s (i 'C')
  have hnone : (m.run (s.read (i 'C')).run).1 = .error (.notFound (s.variablePath (i 'C'))) := by
    refine ((hmachine m).2.1 _ ha hf hroot fun target => ?_).2 hfree
    rw [hfree]
    exact fun h => by cases h
  refine ⟨?_, ?_, ha, hf, hroot, hnone, ?_⟩
  · rw [Machine.fst_run] at hshort ⊢
    exact ((hA Machine.host m).2.1 _ _).2 ⟨hpath, by decide, _, hshort, rfl⟩
  · rw [Machine.fst_run] at hbare ⊢
    exact ((hB Machine.host m).1 _).2 hbare
  · rw [Machine.fst_run] at hnone ⊢
    exact (((hC Machine.host m).2.2.1 _).1 hnone).1

end Store
end FirmwareVars
