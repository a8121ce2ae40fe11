import FirmwareVars.Host.Machine
/-!
# Running scripts

What a machine makes of a script that is put together from others.  A script that goes on where another ends runs from
the machine that the other leaves behind (`run_bind`), and an operation that fails runs no further
(`run_bind_of_error`), so the run of an operation is read off the runs of its steps.

`Operation.outcome` is what an operation comes to on any host at all, one that answers as it likes and remembers what it
likes.  What holds of it does not depend on what a file system is.
-/
namespace FirmwareVars

/-! ## Any host -/

section Hosts

variable {Handle α β ε σ : Type}

theorem Script.perform_bind (host : {β : Type} → Request Handle β → StateM σ β) :
    ∀ (s : Script Handle α) (f : α → Script Handle β) (st : σ),
      (s >>= f).perform host st = (f (s.perform host st).1).perform host (s.perform host st).2
  | .done _, _, _ => rfl
  | .ask r next, f, st => perform_bind host (next (host r st).1) f (host r st).2

namespace Operation

/-- What an operation comes to on a host that is in a given state. -/
def outcome (host : {β : Type} → Request Handle β → StateM σ β) (st : σ) (o : Operation Handle ε α) : Except ε α :=
  (o.run.perform host st).1

variable (host : {β : Type} → Request Handle β → StateM σ β) (st : σ)

/-- What follows counts for the outcome only by what it gives, when it gives the same in every state. -/
theorem outcome_bind {o : Operation Handle ε α} {f : α → Operation Handle ε β} {g : α → Except ε β}
    (h : ∀ a st, (f a).outcome host st = g a) : (o >>= f).outcome host st = (o.outcome host st).bind g := by
  rw [outcome, ExceptT.run_bind, Script.perform_bind, outcome]
  cases (o.run.perform host st).1 with
  | error e => rfl
  | ok a => exact h a _

theorem outcome_ask (r : Request Handle (Except Failure α)) (blame : Failure → ε) :
    (ask r blame).outcome host st = (host r st).1.mapError blame := by
  have hrequest : ((Script.request r).perform host st).1 = (host r st).1 := rfl
  rw [outcome, ask, ExceptT.run_mk, Script.perform_bind, hrequest]
  cases (host r st).1 <;> rfl

theorem outcome_mapError {ε' : Type} (blame : ε → ε') (o : Operation Handle ε α) :
    (mapError blame o).outcome host st = (o.outcome host st).mapError blame := by
  rw [outcome, mapError, ExceptT.run_mk, Script.perform_bind, outcome]
  cases (o.run.perform host st).1 <;> rfl

end Operation
end Hosts

namespace Machine

variable {α β ε : Type}

/-- The machine after it was told of events. -/
def heard (m : Machine) (events : List Event) : Machine := { m with events := m.events ++ events }

@[simp] theorem files_heard (m : Machine) (events : List Event) : (m.heard events).files = m.files := rfl

@[simp] theorem cwd_heard (m : Machine) (events : List Event) : (m.heard events).cwd = m.cwd := rfl

def holding (m : Machine) (files : FileSystem) : Machine := { m with files := files }

@[simp] theorem files_holding (m : Machine) (files : FileSystem) : (m.holding files).files = files := rfl

@[simp] theorem cwd_holding (m : Machine) (files : FileSystem) : (m.holding files).cwd = m.cwd := rfl

/-- The machine after more was printed. -/
def said (m : Machine) (pieces : List Bytes) : Machine := { m with printed := m.printed ++ pieces }

/-! ## Scripts -/

theorem run_bind : ∀ (s : Script Location α) (f : α → Script Location β) (m : Machine),
    m.run (s >>= f) = (m.run s).2.run (f (m.run s).1)
  | .done _, _, _ => rfl
  | .ask r next, f, m => run_bind (next (m.answer r).1) f (m.answer r).2

theorem run_map (f : α → β) (s : Script Location α) (m : Machine) : m.run (f <$> s) = (m.run s).map f id :=
  run_bind s _ m

/-- The host that answers as machines do. -/
def host {β : Type} (r : Request Location β) : StateM Machine β := fun m => m.answer r

/-- **A machine is a host**, one that knows its files. -/
theorem run_eq_perform : ∀ (s : Script Location α) (m : Machine), m.run s = s.perform host m
  | .done _, _ => rfl
  | .ask r next, m => run_eq_perform (next (m.answer r).1) (m.answer r).2

theorem fst_run (o : Operation Location ε α) (m : Machine) : (m.run o.run).1 = o.outcome host m :=
  congrArg Prod.fst (run_eq_perform o.run m)

theorem run_request (r : Request Location α) (m : Machine) : m.run (Script.request r) = m.answer r := rfl

/-! ## Operations -/

theorem run_bind_of_ok {o : Operation Location ε α} {m m' : Machine} {a : α} (h : m.run o.run = (.ok a, m'))
    (f : α → Operation Location ε β) : m.run (o >>= f).run = m'.run (f a).run := by
  rw [ExceptT.run_bind, run_bind, h]

theorem run_bind_of_error {o : Operation Location ε α} {m m' : Machine} {e : ε} (h : m.run o.run = (.error e, m'))
    (f : α → Operation Location ε β) : m.run (o >>= f).run = (.error e, m') := by
  rw [ExceptT.run_bind, run_bind, h]
  rfl

theorem run_ask (r : Request Location (Except Failure α)) (blame : Failure → ε) (m : Machine) :
    m.run (Operation.ask r blame).run =
      (match (m.answer r).1 with
        | .ok a => .ok a
        | .error failure => .error (blame failure), (m.answer r).2) := by
  rw [Operation.ask, ExceptT.run_mk, run_bind, run_request]
  cases (m.answer r).1 <;> rfl

/-- What follows counts for the outcome only by what it gives, when it gives the same on every machine. -/
theorem fst_run_bind {o : Operation Location ε α} {f : α → Operation Location ε β} {g : α → Except ε β}
    (h : ∀ a m, (Machine.run m (f a).run).1 = g a) (m : Machine) :
    (m.run (o >>= f).run).1 = (m.run o.run).1.bind g := by
  rcases ho : m.run o.run with ⟨e | a, m'⟩
  · rw [run_bind_of_error ho]
    rfl
  · rw [run_bind_of_ok ho]
    exact h a m'

theorem run_mapError {ε' : Type} (blame : ε → ε') (o : Operation Location ε α) (m : Machine) :
    m.run (Operation.mapError blame o).run = ((m.run o.run).1.mapError blame, (m.run o.run).2) := by
  unfold Operation.mapError
  rw [ExceptT.run_mk, run_bind]
  cases (m.run o.run).1 <;> rfl

theorem fst_run_mapError {ε' : Type} (blame : ε → ε') (o : Operation Location ε α) (m : Machine) :
    (m.run (Operation.mapError blame o).run).1 = (m.run o.run).1.mapError blame :=
  congrArg Prod.fst (run_mapError blame o m)

end Machine
end FirmwareVars
