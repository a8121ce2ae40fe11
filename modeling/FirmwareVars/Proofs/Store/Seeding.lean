import FirmwareVars.Proofs.EntryName.RoundTrip
import FirmwareVars.Proofs.Host.Alike
import FirmwareVars.Proofs.Store.Catalogue
import FirmwareVars.Proofs.Store.Enumeration
import FirmwareVars.Sandbox
/-!
# Seeding a store

A sandbox puts variables into a directory without going through a store, and looks at its entries without taking their
names apart.  Under a name that a store takes, seeding asks the host for what writing asks it for (`alike_seed`), so
seeds and writes can stand for each other anywhere in a sequence of both (`alike_sow`).  The entries that a sandbox shows
are those that a listing goes through (`entries_of_listed`).
-/
namespace FirmwareVars

open EntryName (Addressable)
open Store (variablePath)

namespace Sandbox

/-- What a sandbox says about a file that it could not fill. -/
def seedingError (path : Path) (failure : Failure) : SandboxError :=
  ⟨some ("seeding ".toList ++ path.display), failure⟩

/-- The end of a seed and the end of a write of as many bytes: both have filled the file at the path, or the host has
refused both with the same failure, either to open the file or to write to it. -/
inductive Matches (path : Path) (bytes : Nat) : Except SandboxError Path → Except StoreError Outcome → Prop
  | filled : Matches path bytes (.ok path) (.ok (.written bytes))
  | unopened (failure : Failure) :
      Matches path bytes (.error (seedingError path failure)) (.error (.host .opening path failure))
  | unwritten (failure : Failure) :
      Matches path bytes (.error (seedingError path failure)) (.error (.host .write path failure))

theorem Matches.eq_written {path p : Path} {bytes : Nat} {x : Except StoreError Outcome}
    (h : Matches path bytes (.ok p) x) : x = .ok (.written bytes) := by
  cases h
  rfl

variable {Handle : Type}

inductive Way
  | seed
  | write

/-- Puts a variable into the directory in one way or the other: whether that succeeded. -/
def plant (b : Sandbox) (s : Store) (k : Key) (v : Variable) : Way → Script Handle Bool
  | .seed => do return (← (b.seed k.1 v).run).isOk
  | .write => do return (← (s.write k.1 (some v.payload) (some v.attributes)).run).isOk

/-- Puts variables into the directory, each in its way: which of them succeeded. -/
def sow (b : Sandbox) (s : Store) : List (Way × Key × Variable) → Script Handle (List Bool)
  | [] => return []
  | (way, k, v) :: steps => do
    let planted ← plant b s k v way
    return planted :: (← sow b s steps)

variable {b : Sandbox} {s : Store}

section Root

variable (hroot : s.root = b.root)
include hroot

/-- **Seeding asks for what writing asks for.** -/
theorem alike_seed {i : Identity} (ha : Addressable i) (v : Variable) :
    (b.seed i v : Operation Handle SandboxError Path).run.Alike (Matches (s.variablePath i) v.toBytes.length)
      (s.write i (some v.payload) (some v.attributes)).run := by
  have hpath : b.root.join (Path.ofText i.spell) = s.variablePath i := by rw [variablePath, hroot]
  rw [seed, seedRaw, hpath, Store.write, Store.bind_entryPath s _ ha]
  refine .ask (.openEmptied _) fun opened => ?_
  cases opened with
  | error failure => exact .done (.unopened failure)
  | ok file =>
    refine .ask (.writeAll file v.toBytes) fun written => ?_
    cases written with
    | error failure => exact .done (.unwritten failure)
    -- only now do the two tell of different events
    | ok => exact .left _ (.right _ (.done .filled))

theorem alike_plant_seed (k : Key) (v : Variable) :
    (plant b s k v .seed : Script Handle Bool).Alike (· = ·) (plant b s k v .write) := by
  refine (alike_seed hroot k.2 v).bind fun x y hxy => .done ?_
  cases hxy <;> rfl

theorem alike_plant (k : Key) (v : Variable) (way way' : Way) :
    (plant b s k v way : Script Handle Bool).Alike (· = ·) (plant b s k v way') := by
  cases way with
  | seed =>
    cases way' with
    | seed => exact Script.alike_self (fun _ => rfl) _
    | write => exact alike_plant_seed hroot k v
  | write =>
    cases way' with
    | seed => exact (alike_plant_seed hroot k v).swap.mono fun _ _ => Eq.symm
    | write => exact Script.alike_self (fun _ => rfl) _

/-- **The way makes no difference, step by step.** -/
theorem alike_sow : ∀ {steps steps' : List (Way × Key × Variable)}, steps.map Prod.snd = steps'.map Prod.snd →
    (sow b s steps : Script Handle (List Bool)).Alike (· = ·) (sow b s steps')
  | [], [], _ => .done rfl
  | (way, k, v) :: steps, (way', k', v') :: steps', h => by
    obtain ⟨hhead, htail⟩ := List.cons.inj h
    cases hhead
    refine (alike_plant hroot k v way way').bind fun planted planted' hplanted => ?_
    refine (alike_sow htail).bind fun rest rest' hrest => .done ?_
    rw [hplanted, hrest]

/-- **What a store lists are the identities of the entries of the sandbox**, in their order. -/
theorem entries_of_listed {m : Machine} {ids : List Identity} (h : (m.run s.list.run).1 = .ok ids) :
    ∃ entries, (m.run b.entries.run).1 = .ok entries ∧ entries.map EntryName.decode = ids.map .ok := by
  cases hdir : m.files.list m.cwd s.root with
  | error failure =>
    rw [Store.run_list_refused hdir] at h
    cases h
  | ok raws =>
    rcases Store.run_list_cases hdir with ⟨ts, _, rfl, hids, hrun⟩ | ⟨_, _, _, _, _, _, -, -, -, -, hrun⟩ | ⟨_, -, -, hrun⟩
    · rw [hrun] at h
      cases h
      have hback : Utf8.decodeLossy ∘ Utf8.encode = id := funext Utf8.decodeLossy_encode
      have hask := Machine.run_ask (.readDirectory b.root) (fun failure => (⟨none, failure⟩ : SandboxError)) m
      simp only [Machine.answer, ← hroot, hdir] at hask
      refine ⟨EntryName.sort ts, ?_, hids⟩
      rw [entries, ← hroot, Machine.run_bind_of_ok hask, List.map_map, hback, List.map_id]
      rfl
    · rw [hrun] at h
      cases h
    · rw [hrun] at h
      cases h

end Root

/-- **A sandbox and a store with the same root build the same directory.**  For an identity with an entry name, that
name is its spelling, and both take the same path.  Seeding a variable there and writing it with its attribute word ask
any host for the same things in the same order, so on every machine they end alike and leave the same files.  In a
sequence of seeds and writes each can be replaced by the other: the same steps succeed, the files are the same at the
end, and so is what any later script gives.  And a listing that succeeds has the identities that the entries shown by the
sandbox spell. -/
theorem seed_as_write (b : Sandbox) (s : Store) (hroot : s.root = b.root) :
    (∀ i entry, EntryName.encode i = .ok entry →
      entry = i.spell ∧ s.entryPath i = .ok (b.root.join (Path.ofText entry)) ∧
      ∀ v : Variable,
        (∀ Handle : Type, (b.seed i v : Operation Handle SandboxError Path).run.Alike
          (Matches (b.root.join (Path.ofText entry)) v.toBytes.length)
          (s.write i (some v.payload) (some v.attributes)).run) ∧
        ∀ m : Machine,
          Matches (b.root.join (Path.ofText entry)) v.toBytes.length (m.run (b.seed i v).run).1
            (m.run (s.write i (some v.payload) (some v.attributes)).run).1 ∧
          (m.run (b.seed i v).run).2.Like (m.run (s.write i (some v.payload) (some v.attributes)).run).2) ∧
    (∀ (m : Machine) (steps steps' : List (Way × Key × Variable)), steps.map Prod.snd = steps'.map Prod.snd →
      (m.run (sow b s steps)).1 = (m.run (sow b s steps')).1 ∧
      (m.run (sow b s steps)).2.files = (m.run (sow b s steps')).2.files ∧
      ∀ (α : Type) (later : Script Location α),
        ((m.run (sow b s steps)).2.run later).1 = ((m.run (sow b s steps')).2.run later).1) ∧
    ∀ (m : Machine) (ids : List Identity), (m.run s.list.run).1 = .ok ids →
      ∃ entries, (m.run b.entries.run).1 = .ok entries ∧ entries.map EntryName.decode = ids.map .ok := by
  refine ⟨fun i entry hentry => ?_, fun m steps steps' h => ?_, fun m ids => entries_of_listed hroot⟩
  · obtain ⟨ha, rfl⟩ := EntryName.encode_eq_ok_iff.1 hentry
    have hpath : s.variablePath i = b.root.join (Path.ofText i.spell) := by rw [variablePath, hroot]
    refine ⟨rfl, hpath ▸ Store.entryPath_of_addressable ha, fun v => ?_⟩
    rw [← hpath]
    exact ⟨fun Handle => alike_seed hroot ha v, fun m => Machine.run_alike (alike_seed hroot ha v) m.like_self⟩
  · obtain ⟨hplanted, hlike⟩ := Machine.run_alike (alike_sow hroot h) m.like_self
    exact ⟨hplanted, hlike.files, fun α later => (Machine.run_like hlike later).1⟩

/-- A variable that is seeded and then replaced by a write, and the other way round, beside an entry with an upper-case
digit. -/
theorem seed_as_write_replaced :
    let b : Sandbox := ⟨⟨[0x64]⟩, false⟩
    let s : Store := .atRoot ⟨[0x64]⟩
    let k : Key := ⟨⟨['A'], ⟨0, 0, 0, 0⟩⟩, by decide⟩
    let v : Variable := ⟨⟨0x80000000⟩, [1]⟩
    let w : Variable := ⟨⟨7⟩, []⟩
    let upper : Text := "B-00000000-0000-0000-0000-00000000000A".toList
    let m : Machine := ⟨⟨[([[0x64]], .directory), ([[0x64], Utf8.encode upper], .file [])]⟩, [], [], []⟩
    s.root = b.root ∧ EntryName.encode k.1 = .ok k.1.spell ∧
      (m.run (b.seed k.1 v).run).1 = .ok (s.variablePath k.1) ∧
      (m.run (s.write k.1 (some v.payload) (some v.attributes)).run).1 = .ok (.written 5) ∧
      (m.run (b.seed k.1 v).run).2.files = (m.run (s.write k.1 (some v.payload) (some v.attributes)).run).2.files ∧
      (m.run (sow b s [(.seed, k, v), (.write, k, w)])).2.files =
        (m.run (sow b s [(.write, k, v), (.seed, k, w)])).2.files ∧
      (m.run s.list.run).1 = .ok [⟨['B'], ⟨0, 0, 0, 10⟩⟩] ∧
      ∃ entries, (m.run b.entries.run).1 = .ok entries ∧
        entries.map EntryName.decode = [.ok ⟨['B'], ⟨0, 0, 0, 10⟩⟩] := by
  intro b s k v w upper m
  have hencode : EntryName.encode k.1 = .ok k.1.spell := by decide +kernel
  have hseeded : (m.run (b.seed k.1 v).run).1 = .ok (s.variablePath k.1) := by decide +kernel
  have hlist : (m.run s.list.run).1 = .ok [⟨['B'], ⟨0, 0, 0, 10⟩⟩] := by
    have hdir : m.files.list m.cwd s.root = .ok ([upper].map Utf8.encode) := by decide +kernel
    have hsort : EntryName.sort [upper] = [upper] := List.mergeSort_singleton upper
    have hids : (EntryName.sort [upper]).map EntryName.decode = [⟨['B'], ⟨0, 0, 0, 10⟩⟩].map .ok := by
      rw [hsort]
      decide +kernel
    rw [Store.run_list_ok hdir hids]
  obtain ⟨hone, hmany, hshown⟩ := seed_as_write b s rfl
  obtain ⟨-, -, hv⟩ := hone k.1 _ hencode
  obtain ⟨hends, hlike⟩ := (hv v).2 m
  rw [hseeded] at hends
  have hsteps := hmany m [(.seed, k, v), (.write, k, w)] [(.write, k, v), (.seed, k, w)] rfl
  exact ⟨rfl, hencode, hseeded, hends.eq_written, hlike.files, hsteps.2.1, hlist, hshown m _ hlist⟩

end Sandbox
end FirmwareVars
