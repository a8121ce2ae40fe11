import FirmwareVars.Proofs.Store.Catalogue
import FirmwareVars.Proofs.Store.Faults
/-!
# What a call can reach

A call on a variable reaches one entry of the root and nothing else, whatever the name of the variable is
(`calls_confined`).  A name that could lead elsewhere is refused before the host is asked for anything.  Any other is
the first part of a single component, so the root is never left, and no two identities have the same one.
-/
namespace FirmwareVars

open FileSystem (AtEntry EntriesIn IsSingle contentsOf)
open EntryName (Addressable)
open Machine (Runs)

/-- Is about the file at the path, or about a file that was opened before. -/
def Request.Concerns {Handle : Type} (p : Path) : ∀ β, Request Handle β → Prop
  | _, .readFile q | _, .openEmptied q | _, .removeFile q => q = p
  | _, .writeAll _ _ | _, .tell _ => True
  | _, .readDirectory _ | _, .createDirectories _ | _, .removeTree _ => False
  | _, .print _ | _, .flush => False

namespace Store

variable {s : Store} {i : Identity}

/-- The work of a call, on any host. -/
def Call.script (s : Store) {Handle : Type} : Call → Script Handle Reply
  | .write i payload attributes => .outcome <$> (s.write i payload attributes).run
  | .delete i => .outcome <$> (s.delete i).run
  | .read i => .contents <$> (s.read i).run
  | .readVariable i => .content <$> (s.readVariable i).run
  | .list => .names <$> s.list.run

theorem Call.carryOut_eq (s : Store) (m : Machine) (call : Call) : call.carryOut s m = m.run (call.script s) := by
  cases call <;> exact (Machine.run_map _ _ m).symm

theorem Call.runs_carryOut (s : Store) (m : Machine) (call : Call) :
    Runs m (call.script s) (call.carryOut s m).1 (call.carryOut s m).2 := by
  rw [carryOut_eq]
  exact Machine.runs_run _ m

def Reply.error? : Reply → Option StoreError
  | .outcome (.error e) | .contents (.error e) | .content (.error e) | .names (.error e) => some e
  | _ => none

/-- **All that is asked of a host is about the path of the variable.** -/
theorem asks_script (ha : Addressable i) {call : Call} (hcall : call.identity? = some i) {Handle : Type} :
    (call.script s : Script Handle Reply).Asks (Request.Concerns (s.variablePath i)) := by
  have htell (event : Event) : @Request.Concerns Handle (s.variablePath i) _ (.tell event) := trivial
  cases call with
  | list => cases hcall
  | write j payload attributes =>
    obtain rfl := Option.some.inj hcall
    refine Script.asks_map _ ?_
    cases payload with
    | none => exact asks_delete htell rfl
    | some payload =>
      rw [write, bind_entryPath s _ ha]
      exact asks_replace htell rfl fun _ _ => trivial
  | delete j =>
    obtain rfl := Option.some.inj hcall
    exact Script.asks_map _ (asks_delete htell rfl)
  | read j =>
    obtain rfl := Option.some.inj hcall
    exact Script.asks_map _ (asks_read htell rfl)
  | readVariable j =>
    obtain rfl := Option.some.inj hcall
    exact Script.asks_map _ (asks_readVariable htell rfl)

/-! ## Effects -/

/-- The bytes are the contents of the entry `c` of the path, or the entry is a link. -/
def ReadAt (m : Machine) (p : Path) (c bytes : Bytes) : Prop :=
  ∃ loc node, AtEntry m.files m.cwd p c loc ∧ m.files.lookup loc = some node ∧ contentsOf node = .ok bytes

/-- A call that changed nothing but the entry `c` of the root and gives nothing but what is in it, as long as that is
not a link. -/
structure Confined (s : Store) (c : Bytes) (m : Machine) (reply : Reply) (m' : Machine) : Prop where
  changed : ∀ loc, m'.files.lookup loc ≠ m.files.lookup loc → AtEntry m.files m.cwd s.root c loc
  contents : ∀ bytes, reply = .contents (.ok bytes) → ReadAt m s.root c bytes
  content : ∀ v, reply = .content (.ok v) → ∃ bytes, ReadAt m s.root c bytes ∧ Variable.ofBytes? bytes = some v

section Effects

variable {m m' : Machine} (ha : Addressable i)
include ha

theorem readAt_of_read {bytes : Bytes} (h : m.files.read m.cwd (s.variablePath i) = .ok bytes) :
    ReadAt m s.root (Utf8.encode i.spell) bytes := by
  obtain ⟨loc, node, hloc, hnode, hbytes⟩ := FileSystem.read_eq_ok_iff.1 h
  exact ⟨loc, node, FileSystem.atEntry_of_locate (EntryName.isSingle_encode ha) hloc, hnode, hbytes⟩

theorem changed_of_delete {x : Except StoreError Outcome} (h : Runs m (s.delete i).run x m') {loc : Location}
    (hloc : m'.files.lookup loc ≠ m.files.lookup loc) : AtEntry m.files m.cwd s.root (Utf8.encode i.spell) loc := by
  rcases (runs_delete ha).1 h with ⟨files, hremove, -, rfl⟩ | ⟨-, rfl⟩ | ⟨_, -, -, rfl⟩
  · obtain ⟨loc', node, hlocated, hnode, hdir, rfl⟩ := FileSystem.remove_eq_ok_iff.1 hremove
    have hnot : m.files.lookup loc' ≠ some .directory := fun hd => hdir (Option.some.inj (hnode.symm.trans hd))
    have heq : loc = loc' := by
      by_contra hother
      exact hloc ((FileSystem.lookup_erase (FileSystem.ne_nil_of_not_directory hnot) loc).trans (if_neg hother))
    exact heq ▸ FileSystem.atEntry_of_locate (EntryName.isSingle_encode ha) hlocated
  · exact absurd rfl hloc
  · exact absurd rfl hloc

theorem changed_of_replace {v : Variable} {x : Except StoreError Outcome}
    (h : Runs m (replace (s.variablePath i) v).run x m') {loc : Location}
    (hloc : m'.files.lookup loc ≠ m.files.lookup loc) : AtEntry m.files m.cwd s.root (Utf8.encode i.spell) loc := by
  rcases runs_replace.1 h with ⟨_, -, rfl⟩ | ⟨loc', hlocated, hdir, hend⟩
  · exact absurd rfl hloc
  · have heq : loc = loc' := by
      by_contra hother
      rcases hend with ⟨k, _, -, rfl⟩ | ⟨-, -, rfl⟩
      · exact hloc (FileSystem.lookup_filled hdir hother _)
      · exact hloc (FileSystem.lookup_filled hdir hother _)
    exact heq ▸ FileSystem.atEntry_of_locate (EntryName.isSingle_encode ha) hlocated

/-- **A call changes the entry of its variable at most, and gives what is in it at most.** -/
theorem confined_of_runs {call : Call} (hcall : call.identity? = some i) {reply : Reply}
    (h : Runs m (call.script s) reply m') : Confined s (Utf8.encode i.spell) m reply m' := by
  cases call with
  | list => cases hcall
  | write j payload attributes =>
    obtain rfl := Option.some.inj hcall
    obtain ⟨x, hx, rfl⟩ := Machine.runs_map.1 h
    refine ⟨fun loc hloc => ?_, fun _ heq => (by cases heq), fun _ heq => (by cases heq)⟩
    cases payload with
    | none => exact changed_of_delete ha hx hloc
    | some payload => exact changed_of_replace ha ((runs_write_some ha).1 hx) hloc
  | delete j =>
    obtain rfl := Option.some.inj hcall
    obtain ⟨x, hx, rfl⟩ := Machine.runs_map.1 h
    exact ⟨fun loc hloc => changed_of_delete ha hx hloc, fun _ heq => (by cases heq), fun _ heq => (by cases heq)⟩
  | read j =>
    obtain rfl := Option.some.inj hcall
    obtain ⟨x, hx, rfl⟩ := Machine.runs_map.1 h
    rcases (runs_read ha).1 hx with ⟨bytes, hread, rfl, rfl⟩ | ⟨_, rfl, rfl⟩
    · refine ⟨fun _ hloc => absurd rfl hloc, fun _ heq => ?_, fun _ heq => (by cases heq)⟩
      cases heq
      exact readAt_of_read ha hread
    · exact ⟨fun _ hloc => absurd rfl hloc, fun _ heq => (by cases heq), fun _ heq => (by cases heq)⟩
  | readVariable j =>
    obtain rfl := Option.some.inj hcall
    obtain ⟨x, hx, rfl⟩ := Machine.runs_map.1 h
    rcases (runs_readVariable ha).1 hx with ⟨bytes, hread, rfl, rfl⟩ | ⟨_, rfl, rfl⟩
    · refine ⟨fun _ hloc => absurd rfl hloc, fun _ heq => (by cases heq), fun v heq => ?_⟩
      refine ⟨bytes, readAt_of_read ha hread, ?_⟩
      cases hv : Variable.ofBytes? bytes with
      | none =>
        rw [hv] at heq
        cases heq
      | some w =>
        rw [hv] at heq
        cases heq
        rfl
    · exact ⟨fun _ hloc => absurd rfl hloc, fun _ heq => (by cases heq), fun _ heq => (by cases heq)⟩

end Effects

/-- What is confined to one entry leaves the others alone. -/
theorem Confined.others {c c' : Bytes} {m m' : Machine} {reply : Reply} (h : Confined s c m reply m') (hne : c' ≠ c)
    {dir : Location} (hdir : EntriesIn m.files m.cwd s.root dir)
    (hlink : ∀ target, m.files.lookup (dir ++ [c]) ≠ some (.link target)) :
    m'.files.lookup (dir ++ [c']) = m.files.lookup (dir ++ [c']) := by
  by_contra hloc
  obtain ⟨dir', hdir', heq | ⟨target, htarget⟩⟩ := h.changed _ hloc
  · exact hne (List.singleton_inj.1 (List.append_inj_right heq (congrArg List.length (hdir.unique hdir'))))
  · obtain rfl := hdir.unique hdir'
    exact hlink target htarget

/-! ## Paths -/

theorem addressable_iff : Addressable i ↔ ¬ (i.name = [] ∨ '/' ∈ i.name ∨ '\x00' ∈ i.name) := by
  rw [Addressable, not_or, not_or]

/-- **No two identities share a path.** -/
theorem entryPath_injective {j : Identity} {p : Path} (hi : s.entryPath i = .ok p) (hj : s.entryPath j = .ok p) :
    j = i := by
  have haddressed {k : Identity} (hk : s.entryPath k = .ok p) : Addressable k := by
    by_contra ha
    rw [entryPath_of_not_addressable ha] at hk
    cases hk
  have hbytes {k : Identity} (hk : s.entryPath k = .ok p) : p.bytes = s.root.bytes ++
      (if s.root.bytes = [] ∨ s.root.endsOpen then [] else [Path.separator]) ++ Utf8.encode k.spell := by
    have ha := haddressed hk
    rw [entryPath_of_addressable ha] at hk
    cases hk
    exact Path.bytes_join (EntryName.isSingle_encode ha).separator_notMem
  exact EntryName.spell_injective (Utf8.encode_injective (List.append_cancel_left ((hbytes hj).symm.trans (hbytes hi))))

/-- A call on an identity without an entry name asks for nothing. -/
theorem script_of_not_addressable (ha : ¬ Addressable i) {call : Call} (hcall : call.identity? = some i)
    {Handle : Type} :
    ∃ reply, (call.script s : Script Handle Reply) = .done reply ∧ reply.error? = some (refused i) := by
  cases call with
  | list => cases hcall
  | write j payload attributes =>
    obtain rfl := Option.some.inj hcall
    refine ⟨.outcome (.error (refused j)), ?_, rfl⟩
    rw [Call.script, write_refused ha]
    rfl
  | delete j =>
    obtain rfl := Option.some.inj hcall
    refine ⟨.outcome (.error (refused j)), ?_, rfl⟩
    rw [Call.script, delete_refused ha]
    rfl
  | read j =>
    obtain rfl := Option.some.inj hcall
    refine ⟨.contents (.error (refused j)), ?_, rfl⟩
    rw [Call.script, read_refused ha]
    rfl
  | readVariable j =>
    obtain rfl := Option.some.inj hcall
    refine ⟨.content (.error (refused j)), ?_, rfl⟩
    rw [Call.script, readVariable_refused ha]
    rfl

/-- **A call on a variable reaches one entry of the root and nothing else.**  A name that is empty or has a separator
or a NUL is refused on every host, and the host is asked for nothing.  Any other name gives a path that goes on from the
root by a single component, which belongs to this identity alone.  All requests of the call are about that path, and
whatever they are answered, nothing but that entry of the root is changed or given, links aside; so the entries of all
other identities stay as they were. -/
theorem calls_confined (s : Store) (i : Identity) (call : Call) (hcall : call.identity? = some i) :
    (i.name = [] ∨ '/' ∈ i.name ∨ '\x00' ∈ i.name →
      s.entryPath i = .error (refused i) ∧ (refused i).status = .invalidIdentity ∧
      ∀ Handle : Type, ∃ reply, (call.script s : Script Handle Reply) = .done reply ∧ reply.error? = some (refused i)) ∧
    (¬ (i.name = [] ∨ '/' ∈ i.name ∨ '\x00' ∈ i.name) → ∃ p c, s.entryPath i = .ok p ∧
      p.bytes = s.root.bytes ++ (if s.root.bytes = [] ∨ s.root.endsOpen then [] else [Path.separator]) ++ c ∧
      IsSingle c ∧ (∀ j, s.entryPath j = .ok p → j = i) ∧
      (∀ Handle : Type, (call.script s : Script Handle Reply).Asks (Request.Concerns p)) ∧
      ∀ m reply m', Runs m (call.script s) reply m' → Confined s c m reply m' ∧
        ∀ j, j ≠ i → ∀ dir, EntriesIn m.files m.cwd s.root dir →
          (∀ target, m.files.lookup (dir ++ [c]) ≠ some (.link target)) →
          m'.files.lookup (dir ++ [Utf8.encode j.spell]) = m.files.lookup (dir ++ [Utf8.encode j.spell])) := by
  constructor
  · intro hname
    have ha : ¬ Addressable i := fun ha => addressable_iff.1 ha hname
    exact ⟨entryPath_of_not_addressable ha, rfl, fun _ => script_of_not_addressable ha hcall⟩
  · intro hname
    have ha : Addressable i := addressable_iff.2 hname
    have hc := EntryName.isSingle_encode ha
    refine ⟨s.variablePath i, Utf8.encode i.spell, entryPath_of_addressable ha, Path.bytes_join hc.separator_notMem, hc,
      fun j hj => entryPath_injective (entryPath_of_addressable ha) hj, fun _ => asks_script ha hcall, ?_⟩
    intro m reply m' h
    have hconfined := confined_of_runs ha hcall h
    refine ⟨hconfined, fun j hj dir hdir hlink => hconfined.others (fun heq => hj ?_) hdir hlink⟩
    exact EntryName.spell_injective (Utf8.encode_injective heq)

/-- A name that is the component that goes up, and one that is an absolute path. -/
theorem calls_confined_up :
    let up : Identity := ⟨"..".toList, ⟨0, 0, 0, 0⟩⟩
    let absolute : Identity := ⟨"/etc/x".toList, ⟨0, 0, 0, 0⟩⟩
    let s : Store := .atRoot ⟨[0x64]⟩
    let m : Machine := ⟨⟨[([[0x64]], .directory)]⟩, [], [], []⟩
    let write := Call.write up (some [1]) none
    (Call.delete absolute).identity? = some absolute ∧ write.identity? = some up ∧
      (absolute.name = [] ∨ '/' ∈ absolute.name ∨ '\x00' ∈ absolute.name) ∧
      ¬ (up.name = [] ∨ '/' ∈ up.name ∨ '\x00' ∈ up.name) ∧
      Runs m (write.script s) (.outcome (.ok (.written 5))) (write.carryOut s m).2 ∧
      (∃ reply, ((Call.delete absolute).script s : Script Location Reply) = .done reply) ∧
      s.entryPath up = .ok (Path.ofText "d/..-00000000-0000-0000-0000-000000000000".toList) ∧
      EntriesIn m.files m.cwd s.root [[0x64]] ∧
      (write.carryOut s m).2.files.lookup [[0x64], Utf8.encode absolute.spell] = none := by
  intro up absolute s m write
  have hbad : absolute.name = [] ∨ '/' ∈ absolute.name ∨ '\x00' ∈ absolute.name := by decide
  have hgood : ¬ (up.name = [] ∨ '/' ∈ up.name ∨ '\x00' ∈ up.name) := by decide
  have hpath : s.entryPath up = .ok (Path.ofText "d/..-00000000-0000-0000-0000-000000000000".toList) := by
    decide +kernel
  have hdir : EntriesIn m.files m.cwd s.root [[0x64]] := .inl ⟨rfl, rfl⟩
  have hrun : Runs m (write.script s) (.outcome (.ok (.written 5))) (write.carryOut s m).2 := by
    have hreply : (write.carryOut s m).1 = .outcome (.ok (.written 5)) := by decide +kernel
    exact hreply ▸ write.runs_carryOut s m
  obtain ⟨-, -, hdone⟩ := (calls_confined s absolute (.delete absolute) rfl).1 hbad
  obtain ⟨reply, hreply, -⟩ := hdone Location
  obtain ⟨_, c, -, -, -, -, -, hruns⟩ := (calls_confined s up write rfl).2 hgood
  obtain ⟨-, hothers⟩ := hruns m _ _ hrun
  have hfree (target : Path) : m.files.lookup ([[0x64]] ++ [c]) ≠ some (.link target) := by
    have hnone : m.files.lookup ([[0x64]] ++ [c]) = none := rfl
    rw [hnone]
    exact fun h => by cases h
  refine ⟨rfl, rfl, hbad, hgood, hrun, ⟨reply, hreply⟩, hpath, hdir, ?_⟩
  exact (hothers absolute (by decide) [[0x64]] hdir hfree).trans (by decide +kernel)

end Store
end FirmwareVars
