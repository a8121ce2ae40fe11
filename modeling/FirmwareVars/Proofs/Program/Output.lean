import FirmwareVars.Proofs.Host.Alike
import FirmwareVars.Proofs.Store.Faults
import FirmwareVars.Proofs.Utf8
import FirmwareVars.Program
/-!
# What runs print

Printing is a request like any other, and a machine takes all that is printed to it, so what comes of a report is what it
says (`runs_print`).  Finding the settings prints nothing (`heard_of_resolve`).  So once the settings are there, the
output of a run is that of its command (`Prints.ending`), and a command that reports on what the store gave it prints
that report and nothing else (`prints_after_quiet`).
-/
namespace FirmwareVars

open CommandLine (Invocation Command)
open Machine (Runs run_bind_of_ok run_bind_of_error)

namespace Program

variable {inv : Invocation} {surroundings : Surroundings} {m m' : Machine} {config : Config}

/-! ## Settings -/

section Quiet

variable {Handle : Type}

theorem asks_load (path : Path) :
    (Config.load path : Operation Handle ConfigError Config).run.Asks Request.IsQuiet := by
  refine Script.asks_operation_bind (Script.asks_ask trivial _) fun raw => ?_
  cases Utf8.decode? raw with
  | none => exact trivial
  | some t =>
    simp only
    cases Config.ofYaml? t <;> exact trivial

theorem asks_document (inv : Invocation) : (document inv : Work Handle Config).run.Asks Request.IsQuiet := by
  rw [document]
  cases inv.config with
  | none => exact trivial
  | some path => exact Script.asks_mapError (asks_load path) _

theorem asks_resolve (inv : Invocation) (surroundings : Surroundings) :
    (resolve inv surroundings : Work Handle Config).run.Asks Request.IsQuiet := by
  refine Script.asks_operation_bind (asks_document inv) fun base => ?_
  cases base.overlaid surroundings with
  | error e => exact trivial
  | ok c => exact Script.asks_operation_bind (Script.asks_lift trivial) fun _ => trivial

end Quiet

/-- **Finding the settings leaves the files as they were**, and prints nothing. -/
theorem heard_of_resolve {x : Except RunError Config} (h : Runs m (resolve inv surroundings).run x m') :
    ∃ events, m' = m.heard events :=
  Machine.heard_of_quiet (asks_resolve inv surroundings) h

/-! ## Printing -/

section Printing

variable {x : Except RunError Unit}

theorem runs_write {bytes : Bytes} : Runs m (write bytes).run x m' ↔ x = .ok () ∧ m' = m.said [bytes] :=
  Machine.runs_ask_granted fun _ _ => Machine.answers_print

theorem runs_flush : Runs m (Operation.ask .flush RunError.printing).run x m' ↔ x = .ok () ∧ m' = m :=
  Machine.runs_ask_granted fun _ _ => Machine.answers_flush

/-- **A report is printed as it is**, write by write. -/
theorem runs_print : ∀ {ts : List Text} {m : Machine},
    Runs m (print ts).run x m' ↔ x = .ok () ∧ m' = m.said (ts.map Utf8.encode)
  | [], m => by
    rw [print, Machine.runs_pure, List.map_nil, Machine.said, List.append_nil]
  | t :: ts, m => by
    -- the first write goes before the others, on the machine that they start from
    have hsaid : (m.said [Utf8.encode t]).said (ts.map Utf8.encode) = m.said ((t :: ts).map Utf8.encode) := by
      simp only [Machine.said, List.append_assoc, List.map_cons, List.singleton_append]
    rw [print, Machine.runs_operation_bind]
    constructor
    · rintro (⟨_, m₁, hwrite, h⟩ | ⟨e, hwrite, -⟩)
      · obtain ⟨-, rfl⟩ := runs_write.1 hwrite
        exact hsaid ▸ runs_print.1 h
      · cases (runs_write.1 hwrite).1
    · exact fun h => .inl ⟨(), _, runs_write.2 ⟨rfl, rfl⟩, runs_print.2 (hsaid ▸ h)⟩

/-- Passing the output on changes nothing that a machine knows of. -/
theorem runs_then_flush {o : Work Location Unit} :
    Runs m (o >>= fun _ => Operation.ask .flush RunError.printing).run x m' ↔ Runs m o.run x m' := by
  rw [Machine.runs_operation_bind]
  simp only [runs_flush]
  constructor
  · rintro (⟨_, m₁, h, rfl, rfl⟩ | ⟨e, h, rfl⟩)
    · exact h
    · exact h
  · intro h
    cases x with
    | ok a => exact .inl ⟨a, m', h, rfl, rfl⟩
    | error e => exact .inr ⟨e, h, rfl⟩

end Printing

theorem run_write (bytes : Bytes) (m : Machine) : m.run (write bytes).run = (.ok (), m.said [bytes]) :=
  Prod.ext_iff.2 (runs_write.1 (Machine.runs_run _ m))

theorem run_print (ts : List Text) (m : Machine) : m.run (print ts).run = (.ok (), m.said (ts.map Utf8.encode)) :=
  Prod.ext_iff.2 (runs_print.1 (Machine.runs_run _ m))

theorem run_then_flush (o : Work Location Unit) (m : Machine) :
    m.run (o >>= fun _ => Operation.ask .flush RunError.printing).run = m.run o.run := by
  rcases h : m.run o.run with ⟨e | _, m'⟩
  · exact run_bind_of_error h _
  · exact (run_bind_of_ok h _).trans (Prod.ext_iff.2 (runs_flush.1 (Machine.runs_run _ m')))

/-! ## Output -/

/-- The operation succeeds on the machine, and prints these pieces. -/
structure Prints (m : Machine) (o : Work Location Unit) (pieces : List Bytes) : Prop where
  ok : (m.run o.run).1 = .ok ()
  printed : (m.run o.run).2.printed = m.printed ++ pieces

theorem prints_write (bytes : Bytes) (m : Machine) : Prints m (write bytes) [bytes] := by
  constructor <;> rw [run_write]
  rfl

theorem prints_print (ts : List Text) (m : Machine) : Prints m (print ts) (ts.map Utf8.encode) := by
  constructor <;> rw [run_print]
  rfl

/-- What a command reports on what it was given by the store is all that it prints, as far as the store looks only. -/
theorem prints_after_quiet {α : Type} {o : Store.Work Location α} {f : α → Work Location Unit} {a : α}
    {pieces : List Bytes} (hquiet : o.run.Asks Request.IsQuiet) (ho : (m.run o.run).1 = .ok a)
    (hf : ∀ m', Prints m' (f a) pieces) : Prints m (ofStore o >>= f) pieces := by
  obtain ⟨events, hm⟩ := Machine.heard_of_quiet hquiet (Machine.runs_run o.run m)
  have hstore : m.run (ofStore o).run = (.ok a, m.heard events) := by
    rw [ofStore, Machine.run_mapError, ho, hm]
    rfl
  have hreport := hf (m.heard events)
  constructor <;> rw [run_bind_of_ok hstore]
  · exact hreport.ok
  · exact hreport.printed

/-- The exit status does not depend on what was printed before. -/
theorem status_ending (m : Machine) (inv : Invocation) (surroundings : Surroundings) :
    (ending m inv surroundings).status = exitStatus (m.run (run inv surroundings).run).1 :=
  congrArg exitStatus (Machine.run_like (m.like_printed []) _).1.symm

/-- **Once the settings are there, a run is the run of its command.** -/
theorem run_of_command {command : Command} (hcommand : inv.command = command)
    (hconfig : (m.run (resolve inv surroundings).run).1 = .ok config) :
    ∃ events, m.run (run inv surroundings).run = (m.heard events).run (execute ⟨config⟩ command).run := by
  subst hcommand
  obtain ⟨events, hm⟩ := heard_of_resolve (Machine.runs_run (resolve inv surroundings).run m)
  have hresolved : m.run (resolve inv surroundings).run = (.ok config, m.heard events) := Prod.ext hconfig hm
  exact ⟨events, (run_bind_of_ok hresolved _).trans (run_then_flush _ _)⟩

/-- The output of a run is that of its command. -/
theorem ending_of_prints {command : Command} {pieces : List Bytes} (hcommand : inv.command = command)
    (hconfig : (m.run (resolve inv surroundings).run).1 = .ok config)
    (h : ∀ m', m.Like m' → Prints m' (execute ⟨config⟩ command) pieces) :
    ending m inv surroundings = ⟨0, pieces.flatten, none⟩ := by
  -- the settings are the same whatever was printed before, so they are those of a fresh standard output
  have hfresh := (Machine.run_like (m.like_printed []) (resolve inv surroundings).run).1
  obtain ⟨events, hrun⟩ := run_of_command hcommand (hfresh.symm.trans hconfig)
  have hprints := h (Machine.heard { m with printed := [] } events) ⟨rfl, rfl⟩
  rw [ending, hrun, Ending.of, hprints.ok, hprints.printed]
  rfl

end Program
end FirmwareVars
