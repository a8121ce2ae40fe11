import FirmwareVars.Proofs.Host.Opening
import FirmwareVars.Proofs.Host.Run
/-!
# Hosts that fail

A host may refuse a request at any time, for any reason.  What is refused has no effect, except that a refused write has
written some of its bytes, from the first on (`Refuses`).  `Runs` relates a script to everything that may come of it on
such a host.  The run on which nothing is refused but what has to be is one of them (`runs_run`), so what holds of all
runs holds of that one.

A run of a script that is put together from others is a run of each in turn (`runs_bind`, `runs_operation_bind`), and
`runs_ask` says what comes of a single request.  `Script.Asks P` is about no host at all: whatever the script is
answered, all its requests are in `P`.  A script that only looks leaves the files as they were (`heard_of_quiet`).
-/
namespace FirmwareVars

/-! ## Requests of a script -/

namespace Script

variable {Handle α β ε : Type}

/-- Makes requests in `P` only, whatever the answers are. -/
def Asks (P : ∀ β, Request Handle β → Prop) : Script Handle α → Prop
  | .done _ => True
  | .ask r next => P _ r ∧ ∀ b, Asks P (next b)

variable {P : ∀ β, Request Handle β → Prop}

theorem asks_bind : ∀ {s : Script Handle α} {f : α → Script Handle β}, s.Asks P → (∀ a, (f a).Asks P) →
    (s >>= f).Asks P
  | .done a, _, _, hf => hf a
  | .ask _ _, _, hs, hf => ⟨hs.1, fun b => asks_bind (hs.2 b) hf⟩

theorem asks_operation_bind {o : Operation Handle ε α} {f : α → Operation Handle ε β} (ho : o.run.Asks P)
    (hf : ∀ a, (f a).run.Asks P) : (o >>= f).run.Asks P := by
  rw [ExceptT.run_bind]
  refine asks_bind ho fun x => ?_
  cases x with
  | error e => exact trivial
  | ok a => exact hf a

theorem asks_ask {r : Request Handle (Except Failure α)} (h : P _ r) (blame : Failure → ε) :
    (Operation.ask r blame).run.Asks P := by
  rw [Operation.ask, ExceptT.run_mk]
  refine asks_bind ⟨h, fun _ => trivial⟩ fun x => ?_
  cases x <;> exact trivial

theorem asks_lift {r : Request Handle α} (h : P _ r) :
    (ExceptT.lift (Script.request r) : Operation Handle ε α).run.Asks P := ⟨h, fun _ => trivial⟩

theorem asks_map (f : α → β) {s : Script Handle α} (h : s.Asks P) : (f <$> s).Asks P :=
  asks_bind h fun _ => trivial

theorem asks_mapError {ε' : Type} {o : Operation Handle ε α} (h : o.run.Asks P) (blame : ε → ε') :
    (Operation.mapError blame o).run.Asks P := by
  rw [Operation.mapError, ExceptT.run_mk]
  refine asks_bind h fun x => ?_
  cases x <;> exact trivial

end Script

/-- Leaves the files as they are, and prints nothing. -/
def Request.IsQuiet {Handle : Type} : ∀ β, Request Handle β → Prop
  | _, .readFile _ | _, .readDirectory _ | _, .tell _ => True
  | _, .openEmptied _ | _, .writeAll _ _ | _, .removeFile _ | _, .createDirectories _ | _, .removeTree _ => False
  | _, .print _ | _, .flush => False

namespace Machine

/-! ## Answers -/

/-- The answer refuses the request, and leaves the machine like this.  A write that is refused has written some of its
bytes.  The standard output is taken to be one that can be written to, and of the requests about files those that no
store makes are not refused here. -/
def Refuses (m : Machine) : ∀ {β : Type}, Request Location β → β → Machine → Prop
  | _, .readFile _, x, m' => (∃ failure, x = .error failure) ∧ m' = m
  | _, .readDirectory _, x, m' => (∃ failure, x = .error failure) ∧ m' = m
  | _, .openEmptied _, x, m' => (∃ failure, x = .error failure) ∧ m' = m
  | _, .removeFile _, x, m' => (∃ failure, x = .error failure) ∧ m' = m
  | _, .writeAll loc bytes, x, m' => (∃ failure, x = .error failure) ∧
      ∃ k files, m.files.write loc (bytes.take k) = .ok files ∧ m' = m.holding files
  | _, .createDirectories _, _, _ | _, .removeTree _, _, _ => False
  | _, .print _, _, _ | _, .flush, _, _ | _, .tell _, _, _ => False

/-- What a request may be answered, and the machine after it. -/
def Answers (m : Machine) {β : Type} (r : Request Location β) (x : β) (m' : Machine) : Prop :=
  m.answer r = (x, m') ∨ m.Refuses r x m'

section Answers

variable {m m' : Machine} {p : Path} {loc : Location} {bytes : Bytes}

theorem answers_readFile {x : Except Failure Bytes} : m.Answers (.readFile p) x m' ↔
    (x = m.files.read m.cwd p ∨ ∃ failure, x = .error failure) ∧ m' = m := by
  simp only [Answers, answer, Refuses, Prod.mk.injEq, eq_comm (a := m), eq_comm (b := x), or_and_right]

theorem answers_readDirectory {x : Except Failure (List Bytes)} : m.Answers (.readDirectory p) x m' ↔
    (x = m.files.list m.cwd p ∨ ∃ failure, x = .error failure) ∧ m' = m := by
  simp only [Answers, answer, Refuses, Prod.mk.injEq, eq_comm (a := m), eq_comm (b := x), or_and_right]

theorem answers_openEmptied {x : Except Failure Location} : m.Answers (.openEmptied p) x m' ↔
    (∃ loc files, m.files.openEmptied m.cwd p = .ok (loc, files) ∧ x = .ok loc ∧ m' = m.holding files) ∨
      (∃ failure, x = .error failure) ∧ m' = m := by
  simp only [Answers, answer, Refuses]
  cases m.files.openEmptied m.cwd p with
  | ok opened =>
    obtain ⟨loc, files⟩ := opened
    simp [holding, eq_comm, and_assoc]
  | error failure =>
    -- the machine's own refusal is one of those that any host may give
    simp only [Prod.mk.injEq, reduceCtorEq, false_and, exists_false, false_or, or_iff_right_iff_imp]
    rintro ⟨rfl, rfl⟩
    exact ⟨⟨failure, rfl⟩, rfl⟩

theorem answers_removeFile {x : Except Failure Unit} : m.Answers (.removeFile p) x m' ↔
    (∃ files, m.files.remove m.cwd p = .ok files ∧ x = .ok () ∧ m' = m.holding files) ∨
      (∃ failure, x = .error failure) ∧ m' = m := by
  simp only [Answers, answer, Refuses]
  cases m.files.remove m.cwd p with
  | ok files => simp [settle, holding, eq_comm]
  | error failure =>
    simp only [settle, Prod.mk.injEq, reduceCtorEq, false_and, exists_false, false_or, or_iff_right_iff_imp]
    rintro ⟨rfl, rfl⟩
    exact ⟨⟨failure, rfl⟩, rfl⟩

/-- A write that a machine refuses has written nothing. -/
theorem write_nil_of_error {fs : FileSystem} {failure : Failure} (h : fs.write loc bytes = .error failure) :
    fs.write loc [] = .ok fs := by
  unfold FileSystem.write at h ⊢
  split at h
  · cases h
  · exact if_pos rfl
  · cases h

theorem answers_writeAll {x : Except Failure Unit} : m.Answers (.writeAll loc bytes) x m' ↔
    (∃ files, m.files.write loc bytes = .ok files ∧ x = .ok () ∧ m' = m.holding files) ∨
      (∃ failure, x = .error failure) ∧
        ∃ k files, m.files.write loc (bytes.take k) = .ok files ∧ m' = m.holding files := by
  simp only [Answers, answer, Refuses]
  cases hw : m.files.write loc bytes with
  | ok files => simp [settle, holding, eq_comm]
  | error failure =>
    simp only [settle, Prod.mk.injEq, reduceCtorEq, false_and, exists_false, false_or, or_iff_right_iff_imp]
    rintro ⟨rfl, rfl⟩
    exact ⟨⟨failure, rfl⟩, 0, m.files, write_nil_of_error hw, rfl⟩

theorem answers_tell {event : Event} {x : Unit} : m.Answers (.tell event) x m' ↔ m' = m.heard [event] := by
  simp [Answers, answer, Refuses, heard, eq_comm]

theorem answers_print {x : Except Failure Unit} : m.Answers (.print bytes) x m' ↔ x = .ok () ∧ m' = m.said [bytes] := by
  simp [Answers, answer, Refuses, said, eq_comm]

theorem answers_flush {x : Except Failure Unit} : m.Answers .flush x m' ↔ x = .ok () ∧ m' = m := by
  simp [Answers, answer, Refuses, eq_comm]

end Answers

/-! ## Runs -/

variable {α β ε : Type} {m m' : Machine}

/-- What may come of a script, and the machine after it. -/
inductive Runs : Machine → Script Location α → α → Machine → Prop
  | done (m : Machine) (a : α) : Runs m (.done a) a m
  | ask {m m₁ m' : Machine} {β : Type} {r : Request Location β} {next : β → Script Location α} {x : β} {a : α}
      (hx : m.Answers r x m₁) (h : Runs m₁ (next x) a m') : Runs m (.ask r next) a m'

/-- **What a machine makes of a script may come of it.** -/
theorem runs_run : ∀ (s : Script Location α) (m : Machine), Runs m s (m.run s).1 (m.run s).2
  | .done a, m => .done m a
  | .ask r next, m => .ask (.inl rfl) (runs_run (next (m.answer r).1) (m.answer r).2)

theorem runs_of_run {s : Script Location α} {a : α} (h : m.run s = (a, m')) : Runs m s a m' := by
  have hrun := runs_run s m
  rwa [h] at hrun

theorem runs_done {a b : α} : Runs m (.done a) b m' ↔ b = a ∧ m' = m := by
  constructor
  · intro h
    cases h
    exact ⟨rfl, rfl⟩
  · rintro ⟨rfl, rfl⟩
    exact .done _ _

theorem runs_ask_iff {r : Request Location β} {next : β → Script Location α} {a : α} :
    Runs m (.ask r next) a m' ↔ ∃ x m₁, m.Answers r x m₁ ∧ Runs m₁ (next x) a m' := by
  constructor
  · intro h
    cases h with
    | ask hx h => exact ⟨_, _, hx, h⟩
  · rintro ⟨x, m₁, hx, h⟩
    exact .ask hx h

/-- **A run goes on where the first part ended.** -/
theorem runs_bind {f : α → Script Location β} {b : β} : ∀ {s : Script Location α} {m : Machine},
    Runs m (s >>= f) b m' ↔ ∃ a m₁, Runs m s a m₁ ∧ Runs m₁ (f a) b m'
  | .done a, m => by
    constructor
    · exact fun h => ⟨a, m, .done m a, h⟩
    · rintro ⟨a', m₁, hs, h⟩
      obtain ⟨rfl, rfl⟩ := runs_done.1 hs
      exact h
  | .ask r next, m => by
    have hbind : (Script.ask r next >>= f : Script Location β) = .ask r fun x => next x >>= f := rfl
    rw [hbind, runs_ask_iff]
    constructor
    · rintro ⟨x, m₁, hx, h⟩
      obtain ⟨a, m₂, hs, h⟩ := runs_bind.1 h
      exact ⟨a, m₂, .ask hx hs, h⟩
    · rintro ⟨a, m₂, hs, h⟩
      obtain ⟨x, m₁, hx, hs⟩ := runs_ask_iff.1 hs
      exact ⟨x, m₁, hx, runs_bind.2 ⟨a, m₂, hs, h⟩⟩

theorem runs_map {f : α → β} {s : Script Location α} {b : β} :
    Runs m (f <$> s) b m' ↔ ∃ a, Runs m s a m' ∧ b = f a := by
  have hmap : f <$> s = s >>= fun a => .done (f a) := rfl
  rw [hmap, runs_bind]
  simp only [runs_done]
  constructor
  · rintro ⟨a, m₁, hs, rfl, rfl⟩
    exact ⟨a, hs, rfl⟩
  · rintro ⟨a, hs, rfl⟩
    exact ⟨a, m', hs, rfl, rfl⟩

theorem runs_request {r : Request Location α} {a : α} : Runs m (Script.request r) a m' ↔ m.Answers r a m' := by
  rw [Script.request, runs_ask_iff]
  constructor
  · rintro ⟨x, m₁, hx, h⟩
    obtain ⟨rfl, rfl⟩ := runs_done.1 h
    exact hx
  · exact fun h => ⟨a, m', h, .done m' a⟩

/-! ## Runs of operations -/

/-- **An operation goes on where the first part succeeded**, and fails as that failed. -/
theorem runs_operation_bind {o : Operation Location ε α} {f : α → Operation Location ε β} {x : Except ε β} :
    Runs m (o >>= f).run x m' ↔
      (∃ a m₁, Runs m o.run (.ok a) m₁ ∧ Runs m₁ (f a).run x m') ∨ ∃ e, Runs m o.run (.error e) m' ∧ x = .error e := by
  rw [ExceptT.run_bind, runs_bind]
  constructor
  · rintro ⟨e | a, m₁, ho, h⟩
    · obtain ⟨rfl, rfl⟩ := runs_done.1 h
      exact .inr ⟨e, ho, rfl⟩
    · exact .inl ⟨a, m₁, ho, h⟩
  · rintro (⟨a, m₁, ho, h⟩ | ⟨e, ho, rfl⟩)
    · exact ⟨_, m₁, ho, h⟩
    · exact ⟨_, m', ho, .done m' _⟩

theorem runs_ask {r : Request Location (Except Failure α)} {blame : Failure → ε} {x : Except ε α} :
    Runs m (Operation.ask r blame).run x m' ↔
      (∃ a, m.Answers r (.ok a) m' ∧ x = .ok a) ∨
        ∃ failure, m.Answers r (.error failure) m' ∧ x = .error (blame failure) := by
  rw [Operation.ask, ExceptT.run_mk, runs_bind]
  simp only [runs_request]
  constructor
  · rintro ⟨failure | a, m₁, hx, h⟩
    · obtain ⟨rfl, rfl⟩ := runs_done.1 h
      exact .inr ⟨failure, hx, rfl⟩
    · obtain ⟨rfl, rfl⟩ := runs_done.1 h
      exact .inl ⟨a, hx, rfl⟩
  · rintro (⟨a, hx, rfl⟩ | ⟨failure, hx, rfl⟩)
    · exact ⟨_, m', hx, .done m' _⟩
    · exact ⟨_, m', hx, .done m' _⟩

/-- A request that is always granted. -/
theorem runs_ask_granted {r : Request Location (Except Failure α)} {blame : Failure → ε} {a : α} {m₁ : Machine}
    (h : ∀ x m', m.Answers r x m' ↔ x = .ok a ∧ m' = m₁) {x : Except ε α} :
    Runs m (Operation.ask r blame).run x m' ↔ x = .ok a ∧ m' = m₁ := by
  rw [runs_ask]
  constructor
  · rintro (⟨b, hb, rfl⟩ | ⟨failure, hfailure, -⟩)
    · obtain ⟨hab, hm⟩ := (h _ _).1 hb
      cases hab
      exact ⟨rfl, hm⟩
    · cases ((h _ _).1 hfailure).1
  · rintro ⟨rfl, rfl⟩
    exact .inl ⟨a, (h _ _).2 ⟨rfl, rfl⟩, rfl⟩

theorem runs_lift {r : Request Location α} {x : Except ε α} :
    Runs m (ExceptT.lift (Script.request r) : Operation Location ε α).run x m' ↔ ∃ a, m.Answers r a m' ∧ x = .ok a := by
  have hlift : (ExceptT.lift (Script.request r) : Operation Location ε α).run = .ask r fun a => .done (.ok a) := rfl
  rw [hlift, runs_ask_iff]
  simp only [runs_done]
  constructor
  · rintro ⟨a, _, hx, rfl, rfl⟩
    exact ⟨a, hx, rfl⟩
  · rintro ⟨a, hx, rfl⟩
    exact ⟨a, m', hx, rfl, rfl⟩

theorem runs_tell {event : Event} {x : Except ε Unit} :
    Runs m (Operation.tell event).run x m' ↔ x = .ok () ∧ m' = m.heard [event] := by
  rw [Operation.tell, runs_lift]
  simp only [answers_tell]
  exact ⟨fun ⟨_, hm, hx⟩ => ⟨hx, hm⟩, fun ⟨hx, hm⟩ => ⟨(), hm, hx⟩⟩

theorem runs_ask_bind {r : Request Location (Except Failure α)} {blame : Failure → ε} {f : α → Operation Location ε β}
    {x : Except ε β} : Runs m (Operation.ask r blame >>= f).run x m' ↔
      (∃ a m₁, m.Answers r (.ok a) m₁ ∧ Runs m₁ (f a).run x m') ∨
        ∃ failure, m.Answers r (.error failure) m' ∧ x = .error (blame failure) := by
  rw [runs_operation_bind]
  simp only [runs_ask]
  constructor
  · rintro (⟨a, m₁, ⟨a', hx, ha⟩ | ⟨failure, -, ha⟩, h⟩ | ⟨e, ⟨a, -, he⟩ | ⟨failure, hx, he⟩, rfl⟩)
    · cases ha
      exact .inl ⟨a, m₁, hx, h⟩
    · cases ha
    · cases he
    · cases he
      exact .inr ⟨failure, hx, rfl⟩
  · rintro (⟨a, m₁, hx, h⟩ | ⟨failure, hx, rfl⟩)
    · exact .inl ⟨a, m₁, .inl ⟨a, hx, rfl⟩, h⟩
    · exact .inr ⟨blame failure, .inr ⟨failure, hx, rfl⟩, rfl⟩

theorem runs_tell_bind {event : Event} {f : Unit → Operation Location ε α} {x : Except ε α} :
    Runs m (Operation.tell event >>= f).run x m' ↔ Runs (m.heard [event]) (f ()).run x m' := by
  rw [runs_operation_bind]
  constructor
  · rintro (⟨_, m₁, htell, h⟩ | ⟨e, htell, -⟩)
    · obtain ⟨-, rfl⟩ := runs_tell.1 htell
      exact h
    · cases (runs_tell.1 htell).1
  · exact fun h => .inl ⟨(), _, runs_tell.2 ⟨rfl, rfl⟩, h⟩

theorem runs_pure {a : α} {x : Except ε α} :
    Runs m (pure a : Operation Location ε α).run x m' ↔ x = .ok a ∧ m' = m := runs_done

theorem runs_throw {e : ε} {x : Except ε α} :
    Runs m (throw e : Operation Location ε α).run x m' ↔ x = .error e ∧ m' = m := runs_done

theorem runs_mapError {ε' : Type} {blame : ε → ε'} {o : Operation Location ε α} {x : Except ε' α} :
    Runs m (Operation.mapError blame o).run x m' ↔ ∃ y, Runs m o.run y m' ∧ x = y.mapError blame := by
  rw [Operation.mapError, ExceptT.run_mk, runs_bind]
  constructor
  · rintro ⟨e | a, m₁, ho, h⟩
    · obtain ⟨rfl, rfl⟩ := runs_done.1 h
      exact ⟨_, ho, rfl⟩
    · obtain ⟨rfl, rfl⟩ := runs_done.1 h
      exact ⟨_, ho, rfl⟩
  · rintro ⟨e | a, ho, rfl⟩
    · exact ⟨_, m', ho, .done m' _⟩
    · exact ⟨_, m', ho, .done m' _⟩

/-! ## Files read, opened and filled -/

theorem runs_readFile_bind {p : Path} {blame : Failure → ε} {f : Bytes → Operation Location ε α} {x : Except ε α} :
    Runs m (Operation.ask (.readFile p) blame >>= f).run x m' ↔
      (∃ bytes, m.files.read m.cwd p = .ok bytes ∧ Runs m (f bytes).run x m') ∨
        ∃ failure, x = .error (blame failure) ∧ m' = m := by
  rw [runs_ask_bind]
  simp only [answers_readFile]
  constructor
  · rintro (⟨bytes, m₁, ⟨hread | ⟨_, hread⟩, rfl⟩, h⟩ | ⟨failure, ⟨-, rfl⟩, rfl⟩)
    · exact .inl ⟨bytes, hread.symm, h⟩
    · cases hread
    · exact .inr ⟨failure, rfl, rfl⟩
  · rintro (⟨bytes, hread, h⟩ | ⟨failure, rfl, rfl⟩)
    · exact .inl ⟨bytes, m, ⟨.inl hread.symm, rfl⟩, h⟩
    · exact .inr ⟨failure, ⟨.inr ⟨failure, rfl⟩, rfl⟩, rfl⟩

theorem runs_openEmptied_bind {p : Path} {blame : Failure → ε} {f : Location → Operation Location ε α}
    {x : Except ε α} : Runs m (Operation.ask (.openEmptied p) blame >>= f).run x m' ↔
      (∃ failure, x = .error (blame failure) ∧ m' = m) ∨
        ∃ loc, m.files.locate m.cwd true p = .ok loc ∧ m.files.lookup loc ≠ some .directory ∧
          Runs (m.holding (m.files.filled loc [])) (f loc).run x m' := by
  rw [runs_ask_bind]
  simp only [answers_openEmptied, FileSystem.openEmptied_eq_ok_iff]
  constructor
  · rintro (⟨loc, m₁, ⟨loc', files, ⟨hloc, hdir, rfl⟩, hx, rfl⟩ | ⟨⟨_, hx⟩, -⟩, h⟩ |
      ⟨failure, ⟨loc', files, -, hx, -⟩ | ⟨-, rfl⟩, rfl⟩)
    · cases hx
      exact .inr ⟨loc, hloc, hdir, h⟩
    · cases hx
    · cases hx
    · exact .inl ⟨failure, rfl, rfl⟩
  · rintro (⟨failure, rfl, rfl⟩ | ⟨loc, hloc, hdir, h⟩)
    · exact .inr ⟨failure, .inr ⟨⟨failure, rfl⟩, rfl⟩, rfl⟩
    · exact .inl ⟨loc, _, .inl ⟨loc, _, ⟨hloc, hdir, rfl⟩, rfl, rfl⟩, h⟩

/-- **A file just emptied holds the bytes that were written to it**, all of them or the first of them. -/
theorem answers_writeAll_filled {loc : Location} (hloc : m.files.lookup loc ≠ some .directory) {bytes : Bytes}
    {x : Except Failure Unit} : (m.holding (m.files.filled loc [])).Answers (.writeAll loc bytes) x m' ↔
      (m.files.lookup loc ≠ some (.device .full) ∨ bytes = []) ∧ x = .ok () ∧
          m' = m.holding (m.files.filled loc bytes) ∨
        (∃ failure, x = .error failure) ∧ ∃ k, m' = m.holding (m.files.filled loc (bytes.take k)) := by
  have hholding (files : FileSystem) : (m.holding (m.files.filled loc [])).holding files = m.holding files := rfl
  rw [answers_writeAll]
  simp only [files_holding, FileSystem.write_filled_eq_ok_iff hloc, hholding]
  constructor
  · rintro (⟨files, ⟨hroom, rfl⟩, hx, rfl⟩ | ⟨hx, k, files, ⟨-, rfl⟩, rfl⟩)
    · exact .inl ⟨hroom, hx, rfl⟩
    · exact .inr ⟨hx, k, rfl⟩
  · rintro (⟨hroom, hx, rfl⟩ | ⟨hx, k, rfl⟩)
    · exact .inl ⟨_, ⟨hroom, rfl⟩, hx, rfl⟩
    · by_cases hfull : m.files.lookup loc = some (.device .full)
      · -- a device keeps nothing, so none of the bytes may as well have been written
        refine .inr ⟨hx, 0, _, ⟨.inr List.take_zero, rfl⟩, ?_⟩
        rw [FileSystem.filled_of_device hfull, FileSystem.filled_of_device hfull]
      · exact .inr ⟨hx, k, _, ⟨.inl hfull, rfl⟩, rfl⟩

/-! ## What stays as it was -/

theorem heard_nil (m : Machine) : m.heard [] = m := by rw [heard, List.append_nil]

theorem heard_heard (m : Machine) (events events' : List Event) :
    (m.heard events).heard events' = m.heard (events ++ events') := by
  rw [heard, heard, heard, List.append_assoc]

/-- **A script that only looks leaves the files and the output as they were**: the machine has heard of events at
most. -/
theorem heard_of_quiet : ∀ {s : Script Location α} {m : Machine} {a : α}, s.Asks Request.IsQuiet → Runs m s a m' →
    ∃ events, m' = m.heard events
  | .done _, m, _, _, h => ⟨[], by rw [heard_nil, (runs_done.1 h).2]⟩
  | .ask r next, m, a, hs, h => by
    obtain ⟨x, m₁, hx, h⟩ := runs_ask_iff.1 h
    have hstep : ∃ events, m₁ = m.heard events := by
      cases r with
      | readFile p => exact ⟨[], by rw [heard_nil, (answers_readFile.1 hx).2]⟩
      | readDirectory p => exact ⟨[], by rw [heard_nil, (answers_readDirectory.1 hx).2]⟩
      | tell event => exact ⟨[event], answers_tell.1 hx⟩
      | openEmptied p => exact hs.1.elim
      | writeAll loc bytes => exact hs.1.elim
      | removeFile p => exact hs.1.elim
      | createDirectories p => exact hs.1.elim
      | removeTree p => exact hs.1.elim
      | print bytes => exact hs.1.elim
      | flush => exact hs.1.elim
    obtain ⟨events, rfl⟩ := hstep
    obtain ⟨events', rfl⟩ := heard_of_quiet (hs.2 x) h
    exact ⟨events ++ events', heard_heard m events events'⟩

end Machine
end FirmwareVars
