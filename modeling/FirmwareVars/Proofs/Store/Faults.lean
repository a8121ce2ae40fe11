import FirmwareVars.Proofs.Host.Faults
import FirmwareVars.Proofs.Store.Access
/-!
# Stores on hosts that fail

What may come of the operations on one variable when the host may refuse any request (`runs_readVariable`,
`runs_delete`, `runs_replace`).  A change that fails harms one file at most, and that one only when the write itself
broke off: the file then holds the first of the new bytes and none of the old ones (`failed_change_contained`).
-/
namespace FirmwareVars

open FileSystem (AtEntry)
open EntryName (Addressable)
open Machine (Runs)

/-- The first bytes of a variable's form are those of the word, or the word and the first bytes of the payload. -/
theorem Variable.ofBytes?_take_toBytes (v : Variable) (k : Nat) : ofBytes? (v.toBytes.take k) =
    if k < wordLength then none else some ⟨v.attributes, v.payload.take (k - wordLength)⟩ := by
  have hword : (Bytes.littleEndian wordLength v.attributes.word.toNat).length = wordLength :=
    Bytes.length_littleEndian wordLength _
  by_cases hk : k < wordLength
  · have hshort : (v.toBytes.take k).length < wordLength := by
      rw [List.length_take]
      omega
    rw [if_pos hk, ofBytes?, if_pos hshort]
  · have htake : v.toBytes.take k = (⟨v.attributes, v.payload.take (k - wordLength)⟩ : Variable).toBytes := by
      rw [toBytes, toBytes, List.take_append, hword, List.take_of_length_le (hword ▸ Nat.le_of_not_lt hk)]
    rw [if_neg hk, htake, ofBytes?_toBytes]

namespace Store

variable {s : Store} {i : Identity} {m m' : Machine} {path : Path}

/-! ## Requests of an operation -/

section Asks

variable {Handle : Type} {P : ∀ β, Request Handle β → Prop} (htell : ∀ event, P _ (.tell event))
include htell

theorem asks_tell (event : Event) : (Operation.tell event : Work Handle Unit).run.Asks P :=
  Script.asks_lift (htell event)

theorem asks_readEntry (hread : P _ (.readFile path)) : (readEntry path : Work Handle Bytes).run.Asks P :=
  Script.asks_operation_bind (Script.asks_ask hread _) fun _ =>
    Script.asks_operation_bind (asks_tell htell _) fun _ => trivial

theorem asks_read (hread : P _ (.readFile (s.variablePath i))) : (s.read i : Work Handle Bytes).run.Asks P := by
  by_cases ha : Addressable i
  · rw [read, bind_entryPath s _ ha]
    exact asks_readEntry htell hread
  · rw [read_refused ha]
    exact trivial

theorem asks_readVariable (hread : P _ (.readFile (s.variablePath i))) :
    (s.readVariable i : Work Handle Variable).run.Asks P := by
  by_cases ha : Addressable i
  · rw [readVariable, bind_entryPath s _ ha]
    refine Script.asks_operation_bind (asks_readEntry htell hread) fun raw => ?_
    cases Variable.ofBytes? raw <;> exact trivial
  · rw [readVariable_refused ha]
    exact trivial

theorem asks_readable : ∀ raws : List Bytes, (readable raws : Work Handle (List Text)).run.Asks P
  | [] => trivial
  | raw :: rest => by
    rw [readable]
    cases Utf8.decode? raw with
    | some entry => exact Script.asks_operation_bind (asks_readable rest) fun _ => trivial
    | none => exact Script.asks_operation_bind (asks_tell htell _) fun _ => trivial

theorem asks_identities : ∀ entries : List Text, (identities entries : Work Handle (List Identity)).run.Asks P
  | [] => trivial
  | entry :: rest => by
    rw [identities]
    cases EntryName.decode entry with
    | ok i => exact Script.asks_operation_bind (asks_identities rest) fun _ => trivial
    | error e => exact Script.asks_operation_bind (asks_tell htell _) fun _ => trivial

theorem asks_list (hlist : P _ (.readDirectory s.root)) : (s.list : Work Handle (List Identity)).run.Asks P :=
  Script.asks_operation_bind (Script.asks_ask hlist _) fun raws =>
    Script.asks_operation_bind (asks_readable htell raws) fun _ =>
      Script.asks_operation_bind (asks_identities htell _) fun _ =>
        Script.asks_operation_bind (asks_tell htell _) fun _ => trivial

theorem asks_packedNames (hlist : P _ (.readDirectory s.root)) : (s.packedNames : Work Handle Bytes).run.Asks P := by
  refine Script.asks_operation_bind (asks_list htell hlist) fun found => ?_
  cases NameRecord.pack found with
  | error e => exact trivial
  | ok buffer =>
    exact Script.asks_operation_bind (asks_tell htell _) fun _ =>
      Script.asks_operation_bind (asks_tell htell _) fun _ => trivial

theorem asks_replace {v : Variable} (hopen : P _ (.openEmptied path))
    (hwrite : ∀ file bytes, P _ (.writeAll file bytes)) :
    (replace path v : Work Handle Outcome).run.Asks P :=
  Script.asks_operation_bind (Script.asks_ask hopen _) fun _ =>
    Script.asks_operation_bind (Script.asks_ask (hwrite _ _) _) fun _ =>
      Script.asks_operation_bind (asks_tell htell _) fun _ => trivial

theorem asks_delete (hremove : P _ (.removeFile (s.variablePath i))) :
    (s.delete i : Work Handle Outcome).run.Asks P := by
  by_cases ha : Addressable i
  · rw [delete, bind_entryPath s _ ha]
    refine Script.asks_operation_bind (Script.asks_lift hremove) fun answer => ?_
    rcases answer with failure | _
    · cases failure with
      | noEntry => exact Script.asks_operation_bind (asks_tell htell _) fun _ => trivial
      | _ => exact trivial
    · exact Script.asks_operation_bind (asks_tell htell _) fun _ => trivial
  · rw [delete_refused ha]
    exact trivial

end Asks

/-! ## Operations on one variable -/

theorem runs_readEntry {x : Except StoreError Bytes} : Runs m (readEntry path).run x m' ↔
    (∃ bytes, m.files.read m.cwd path = .ok bytes ∧ x = .ok bytes ∧ m' = m.heard [.readVariable path bytes.length]) ∨
      ∃ failure, x = .error (.ofFailure .read path failure) ∧ m' = m := by
  rw [readEntry, Machine.runs_readFile_bind]
  simp only [Machine.runs_tell_bind, Machine.runs_pure]

theorem runs_replace {v : Variable} {x : Except StoreError Outcome} : Runs m (replace path v).run x m' ↔
    (∃ failure, x = .error (.host .opening path failure) ∧ m' = m) ∨
      ∃ loc, m.files.locate m.cwd true path = .ok loc ∧ m.files.lookup loc ≠ some .directory ∧
        ((∃ k failure, x = .error (.host .write path failure) ∧
            m' = m.holding (m.files.filled loc (v.toBytes.take k))) ∨
          m.files.lookup loc ≠ some (.device .full) ∧ x = .ok (.written v.toBytes.length) ∧
            m' = (m.holding (m.files.filled loc v.toBytes)).heard
              [.wroteVariable path v.attributes v.toBytes.length]) := by
  have hne := v.toBytes_ne_nil
  rw [replace, Machine.runs_openEmptied_bind]
  refine or_congr_right (exists_congr fun loc => and_congr_right fun _ => and_congr_right fun hdir => ?_)
  rw [Machine.runs_ask_bind, or_comm]
  simp only [Machine.answers_writeAll_filled hdir, Machine.runs_tell_bind, Machine.runs_pure, hne, or_false]
  constructor
  · rintro (⟨failure, ⟨-, hx, -⟩ | ⟨-, k, rfl⟩, rfl⟩ | ⟨_, m₁, ⟨hroom, -, rfl⟩ | ⟨⟨_, hx⟩, -⟩, rfl, rfl⟩)
    · cases hx
    · exact .inl ⟨k, failure, rfl, rfl⟩
    · exact .inr ⟨hroom, rfl, rfl⟩
    · cases hx
  · rintro (⟨k, failure, rfl, rfl⟩ | ⟨hroom, rfl, rfl⟩)
    · exact .inl ⟨failure, .inr ⟨⟨failure, rfl⟩, k, rfl⟩, rfl⟩
    · exact .inr ⟨(), _, .inl ⟨hroom, trivial, rfl⟩, rfl, rfl⟩

section Addressed

variable (ha : Addressable i)
include ha

theorem runs_read {x : Except StoreError Bytes} : Runs m (s.read i).run x m' ↔
    (∃ bytes, m.files.read m.cwd (s.variablePath i) = .ok bytes ∧ x = .ok bytes ∧
      m' = m.heard [.readVariable (s.variablePath i) bytes.length]) ∨
        ∃ failure, x = .error (.ofFailure .read (s.variablePath i) failure) ∧ m' = m := by
  rw [read, bind_entryPath s _ ha, runs_readEntry]

theorem runs_readVariable {x : Except StoreError Variable} : Runs m (s.readVariable i).run x m' ↔
    (∃ bytes, m.files.read m.cwd (s.variablePath i) = .ok bytes ∧
      x = (Variable.ofBytes? bytes).elim (.error (.truncated (s.variablePath i) bytes.length)) .ok ∧
      m' = m.heard [.readVariable (s.variablePath i) bytes.length]) ∨
        ∃ failure, x = .error (.ofFailure .read (s.variablePath i) failure) ∧ m' = m := by
  rw [readVariable, bind_entryPath s _ ha, Machine.runs_operation_bind]
  simp only [runs_readEntry]
  constructor
  · rintro (⟨bytes, m₁, ⟨bytes', hread, hbytes, rfl⟩ | ⟨failure, hbytes, -⟩, h⟩ |
      ⟨e, ⟨bytes, -, he, -⟩ | ⟨failure, he, rfl⟩, rfl⟩)
    · cases hbytes
      refine .inl ⟨bytes, hread, ?_⟩
      cases hv : Variable.ofBytes? bytes with
      | none =>
        rw [hv] at h
        exact Machine.runs_throw.1 h
      | some v =>
        rw [hv] at h
        exact Machine.runs_pure.1 h
    · cases hbytes
    · cases he
    · cases he
      exact .inr ⟨failure, rfl, rfl⟩
  · rintro (⟨bytes, hread, rfl, rfl⟩ | ⟨failure, rfl, rfl⟩)
    · refine .inl ⟨bytes, _, .inl ⟨bytes, hread, rfl, rfl⟩, ?_⟩
      cases Variable.ofBytes? bytes with
      | none => exact Machine.runs_throw.2 ⟨rfl, rfl⟩
      | some v => exact Machine.runs_pure.2 ⟨rfl, rfl⟩
    · exact .inr ⟨_, .inr ⟨failure, rfl, rfl⟩, rfl⟩

theorem runs_delete {x : Except StoreError Outcome} : Runs m (s.delete i).run x m' ↔
    (∃ files, m.files.remove m.cwd (s.variablePath i) = .ok files ∧ x = .ok .deleted ∧
      m' = (m.holding files).heard [.deletedVariable (s.variablePath i)]) ∨
    (x = .ok .absent ∧ m' = m.heard [.nothingToDelete (s.variablePath i)]) ∨
      ∃ failure, failure ≠ .noEntry ∧ x = .error (.host .delete (s.variablePath i) failure) ∧ m' = m := by
  rw [delete, bind_entryPath s _ ha, Machine.runs_operation_bind]
  simp only [Machine.runs_lift, Machine.answers_removeFile]
  constructor
  · rintro (⟨answer, m₁, ⟨answer', hanswer, hx⟩, h⟩ | ⟨e, ⟨answer, -, he⟩, rfl⟩)
    · cases hx
      rcases hanswer with ⟨files, hremove, rfl, rfl⟩ | ⟨⟨failure, rfl⟩, rfl⟩
      · exact .inl ⟨files, hremove, Machine.runs_pure.1 (Machine.runs_tell_bind.1 h)⟩
      · by_cases habsent : failure = .noEntry
        · subst habsent
          exact .inr (.inl (Machine.runs_pure.1 (Machine.runs_tell_bind.1 h)))
        · refine .inr (.inr ⟨failure, habsent, Machine.runs_throw.1 ?_⟩)
          cases failure with
          | noEntry => exact absurd rfl habsent
          | _ => exact h
    · cases he
  · rintro (⟨files, hremove, rfl, rfl⟩ | ⟨rfl, rfl⟩ | ⟨failure, habsent, rfl, rfl⟩)
    · exact .inl ⟨_, _, ⟨_, .inl ⟨files, hremove, rfl, rfl⟩, rfl⟩, Machine.runs_tell_bind.2 (.done _ _)⟩
    · exact .inl ⟨_, _, ⟨_, .inr ⟨⟨.noEntry, rfl⟩, rfl⟩, rfl⟩, Machine.runs_tell_bind.2 (.done _ _)⟩
    · refine .inl ⟨_, _, ⟨_, .inr ⟨⟨failure, rfl⟩, rfl⟩, rfl⟩, ?_⟩
      cases failure with
      | noEntry => exact absurd rfl habsent
      | _ => exact .done _ _

theorem runs_write_some {payload : Bytes} {attributes : Option Attributes} {x : Except StoreError Outcome} :
    Runs m (s.write i (some payload) attributes).run x m' ↔
      Runs m (replace (s.variablePath i) ⟨attributes.getD s.config.attributes, payload⟩).run x m' := by
  rw [write, bind_entryPath s _ ha]

end Addressed

/-! ## Changes that fail -/

/-- What a write to a path leaves behind that broke off: the first `k` of its bytes, where the path leads to.  A device
keeps none of them. -/
structure BrokeOff (m m' : Machine) (path : Path) (packed : Bytes) (loc : Location) (k : Nat) : Prop where
  located : m.files.locate m.cwd true path = .ok loc
  length_le : k ≤ packed.length
  filesOnly : m' = m.holding m'.files
  elsewhere : ∀ loc', loc' ≠ loc → m'.files.lookup loc' = m.files.lookup loc'
  there : m'.files.lookup loc = some (.file (packed.take k)) ∨
    k = 0 ∧ m' = m ∧ ∃ kind, m.files.lookup loc = some (.device kind)

section BrokeOff

variable {p : Path} {c : Bytes} (hc : FileSystem.IsSingle c) {loc : Location}
  (hlocated : m.files.locate m.cwd true (p.join ⟨c⟩) = .ok loc) (hdir : m.files.lookup loc ≠ some .directory)
include hc hlocated hdir

/-- A write that broke off leaves a prefix, and the prefix is what is read then. -/
theorem exists_brokeOff (packed : Bytes) (j : Nat) :
    ∃ k, BrokeOff m (m.holding (m.files.filled loc (packed.take j))) (p.join ⟨c⟩) packed loc k ∧
      (m.files.Rooted → (m.files.filled loc (packed.take j)).read m.cwd (p.join ⟨c⟩) = .ok (packed.take k)) := by
  have helsewhere (loc' : Location) (h : loc' ≠ loc) := FileSystem.lookup_filled hdir h (packed.take j)
  by_cases hdev : ∃ kind, m.files.lookup loc = some (.device kind)
  · obtain ⟨kind, hkind⟩ := hdev
    have hfilled := FileSystem.filled_of_device hkind (packed.take j)
    refine ⟨0, ⟨hlocated, Nat.zero_le _, rfl, helsewhere, .inr ⟨rfl, ?_, kind, hkind⟩⟩, fun hr => ?_⟩
    · rw [hfilled]
      rfl
    · exact FileSystem.read_filled_of_device hr hc hlocated hdir hkind _
  · have hnot (kind : Device) : m.files.lookup loc ≠ some (.device kind) := fun hkind => hdev ⟨kind, hkind⟩
    have htake : packed.take j = packed.take (min j packed.length) := by
      rw [← List.take_eq_take_min]
    refine ⟨min j packed.length, ⟨hlocated, Nat.min_le_right _ _, rfl, helsewhere, .inl ?_⟩, fun hr => ?_⟩
    · rw [Machine.files_holding, FileSystem.filled_of_not_device hnot,
        FileSystem.lookup_insert (FileSystem.ne_nil_of_not_directory hdir), if_pos rfl, htake]
    · rw [FileSystem.read_filled hr hc hlocated hdir hnot, htake]

end BrokeOff

theorem failed_delete {e : StoreError} (h : Runs m (s.delete i).run (.error e) m') :
    (e = refused i ∨ ∃ failure, e = .host .delete (s.variablePath i) failure) ∧ m' = m := by
  by_cases ha : Addressable i
  · rcases (runs_delete ha).1 h with ⟨_, -, hx, -⟩ | ⟨hx, -⟩ | ⟨failure, -, hx, rfl⟩
    · cases hx
    · cases hx
    · cases hx
      exact ⟨.inr ⟨failure, rfl⟩, rfl⟩
  · rw [delete_refused ha] at h
    obtain ⟨he, rfl⟩ := Machine.runs_throw.1 h
    exact ⟨.inl (Except.error.inj he), rfl⟩

theorem failed_write_some {payload : Bytes} {attributes : Option Attributes} {e : StoreError}
    (h : Runs m (s.write i (some payload) attributes).run (.error e) m') :
    (e = refused i ∨ ∃ failure, e = .host .opening (s.variablePath i) failure) ∧ m' = m ∨
      Addressable i ∧ ∃ failure loc j, e = .host .write (s.variablePath i) failure ∧
        m.files.locate m.cwd true (s.variablePath i) = .ok loc ∧ m.files.lookup loc ≠ some .directory ∧
        m' = m.holding (m.files.filled loc
          ((⟨attributes.getD s.config.attributes, payload⟩ : Variable).toBytes.take j)) := by
  by_cases ha : Addressable i
  · rcases runs_replace.1 ((runs_write_some ha).1 h) with ⟨failure, hx, rfl⟩ | ⟨loc, hlocated, hdir, hend⟩
    · cases hx
      exact .inl ⟨.inr ⟨failure, rfl⟩, rfl⟩
    · rcases hend with ⟨j, failure, hx, rfl⟩ | ⟨-, hx, -⟩
      · cases hx
        exact .inr ⟨ha, failure, loc, j, rfl, hlocated, hdir, rfl⟩
      · cases hx
  · rw [write_refused ha] at h
    obtain ⟨he, rfl⟩ := Machine.runs_throw.1 h
    exact .inl ⟨.inl (Except.error.inj he), rfl⟩

/-- **A change that fails harms one file at most.**  A deletion that fails has changed nothing.  A write that fails has
changed nothing unless the write of the bytes itself broke off.  Then the file that the path of the variable leads to,
which is its entry in the root unless that is a link, holds the first of the new bytes and nothing else, and all else is
as it was; so reading the variable next gives what was to be written with some of the payload, or says that there is too
little for the word, and never anything of what was there before. -/
theorem failed_change_contained (m m' : Machine) (s : Store) (i : Identity) (payload : Option Bytes)
    (attributes : Option Attributes) (e : StoreError) :
    (Runs m (s.delete i).run (.error e) m' →
      (e = refused i ∨ ∃ failure, e = .host .delete (s.variablePath i) failure) ∧ m' = m) ∧
    (Runs m (s.write i payload attributes).run (.error e) m' →
      (e = refused i ∨ (∃ failure, e = .host .delete (s.variablePath i) failure) ∨
        ∃ failure, e = .host .opening (s.variablePath i) failure) ∧ m' = m ∨
      ∃ bytes failure loc k, payload = some bytes ∧ e = .host .write (s.variablePath i) failure ∧
        BrokeOff m m' (s.variablePath i) (⟨attributes.getD s.config.attributes, bytes⟩ : Variable).toBytes loc k ∧
        AtEntry m.files m.cwd s.root (Utf8.encode i.spell) loc ∧
        (m.files.Rooted → (m'.run (s.readVariable i).run).1 =
          if k < Variable.wordLength then .error (.truncated (s.variablePath i) k)
          else .ok ⟨attributes.getD s.config.attributes, bytes.take (k - Variable.wordLength)⟩)) := by
  refine ⟨failed_delete, fun h => ?_⟩
  cases payload with
  | none =>
    obtain ⟨he, hm⟩ := failed_delete h
    exact .inl ⟨he.imp_right .inl, hm⟩
  | some bytes =>
    rcases failed_write_some h with ⟨he, hm⟩ | ⟨ha, failure, loc, j, rfl, hlocated, hdir, rfl⟩
    · exact .inl ⟨he.imp_right .inr, hm⟩
    · have hc := EntryName.isSingle_encode ha
      obtain ⟨k, hbroke, hread⟩ := exists_brokeOff hc hlocated hdir
        (⟨attributes.getD s.config.attributes, bytes⟩ : Variable).toBytes j
      have hentry := FileSystem.atEntry_of_locate hc hlocated
      refine .inr ⟨bytes, failure, loc, k, rfl, rfl, hbroke, hentry, fun hr => ?_⟩
      rw [run_readVariable_of_ok ha (hread hr), Variable.ofBytes?_take_toBytes, List.length_take,
        Nat.min_eq_left hbroke.length_le]
      split <;> rfl

/-- A write over a longer value that broke off after two bytes of the payload, and a deletion that was not allowed. -/
theorem failed_change_contained_longer :
    let i : Identity := ⟨['B'], ⟨0, 0, 0, 0⟩⟩
    let s : Store := .atRoot ⟨[0x64]⟩
    let entry : Location := [[0x64], Utf8.encode i.spell]
    let m : Machine := ⟨⟨[([[0x64]], .directory), (entry, .file [7, 0, 0, 0, 9, 9, 9, 9])]⟩, [], [], []⟩
    let m' := m.holding (m.files.insert entry (.file [7, 0, 0, 0, 1, 2]))
    let denied := StoreError.host .delete (s.variablePath i) (.stated "denied".toList)
    let torn := StoreError.host .write (s.variablePath i) .noSpace
    Runs m (s.delete i).run (.error denied) m ∧ Runs m (s.write i (some [1, 2, 3]) none).run (.error torn) m' ∧
      m.files.Rooted ∧ (denied = refused i ∨ ∃ failure, denied = .host .delete (s.variablePath i) failure) ∧
      (m'.run (s.readVariable i).run).1 = .ok ⟨⟨7⟩, [1, 2]⟩ := by
  intro i s entry m m' denied torn
  have ha : Addressable i := by decide
  have hlocated : m.files.locate m.cwd true (s.variablePath i) = .ok entry := by decide +kernel
  have hlookup : m.files.lookup entry = some (.file [7, 0, 0, 0, 9, 9, 9, 9]) := by decide +kernel
  have hdir : m.files.lookup entry ≠ some .directory := by rw [hlookup]; decide
  have hdev (kind : Device) : m.files.lookup entry ≠ some (.device kind) := by rw [hlookup]; simp
  have htake : (⟨s.config.attributes, [1, 2, 3]⟩ : Variable).toBytes.take 6 = [7, 0, 0, 0, 1, 2] := by decide
  have hfilled := FileSystem.filled_of_not_device hdev [7, 0, 0, 0, 1, 2]
  have hdelete : Runs m (s.delete i).run (.error denied) m :=
    (runs_delete ha).2 (.inr (.inr ⟨_, by decide, rfl, rfl⟩))
  have hreplace : Runs m (replace (s.variablePath i) ⟨s.config.attributes, [1, 2, 3]⟩).run (.error torn) m' := by
    refine runs_replace.2 (.inr ⟨entry, hlocated, hdir, .inl ⟨6, _, rfl, ?_⟩⟩)
    rw [htake, hfilled]
  have hwrite : Runs m (s.write i (some [1, 2, 3]) none).run (.error torn) m' := (runs_write_some ha).2 hreplace
  have hrooted : m.files.Rooted := by decide +kernel
  obtain ⟨hdenied, -⟩ := (failed_change_contained m m s i none none denied).1 hdelete
  rcases (failed_change_contained m m' s i (some [1, 2, 3]) none torn).2 hwrite with ⟨hother, -⟩ |
    ⟨bytes, _, loc, k, hbytes, -, hbroke, -, hread⟩
  · simp [torn, refused] at hother
  · obtain rfl := Option.some.inj hbytes
    have hloc : loc = entry := Except.ok.inj (hbroke.located.symm.trans hlocated)
    subst hloc
    have hk : k = 6 := by
      rcases hbroke.there with hthere | ⟨-, -, kind, hkind⟩
      · rw [Machine.files_holding, FileSystem.lookup_insert (List.cons_ne_nil _ _), if_pos rfl] at hthere
        have hlen := congrArg List.length (Node.file.inj (Option.some.inj hthere))
        rw [List.length_take, Nat.min_eq_left hbroke.length_le] at hlen
        exact hlen.symm
      · exact absurd hkind (hdev kind)
    subst hk
    exact ⟨hdelete, hwrite, hrooted, hdenied, hread hrooted⟩

end Store
end FirmwareVars
