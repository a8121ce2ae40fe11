import FirmwareVars.Proofs.Host.Follow
/-!
# Entries of a directory

What the host does with a single entry of a directory.  The path of the directory may lead there through any number of
links and components (`LeadsTo`); the path of the entry is then as good as its location.  The other way, a path to an
entry leads nowhere else, unless the entry is a link (`atEntry_of_locate`).  An entry that is free or a file is given by
its contents, which are `none` when it is free.
-/
namespace FirmwareVars
namespace FileSystem

/-- A name that an entry of a directory can have. -/
structure IsEntry (c : Bytes) : Prop extends IsName c where
  ne_nil : c ≠ []
  separator_notMem : Path.separator ∉ c
  zero_notMem : 0 ∉ c

theorem isEntry_iff {c : Bytes} : IsEntry c ↔
    (c ≠ Path.here ∧ c ≠ Path.up ∧ c.length ≤ nameLimit) ∧ c ≠ [] ∧ Path.separator ∉ c ∧ 0 ∉ c :=
  ⟨fun h => ⟨⟨h.ne_here, h.ne_up, h.length_le⟩, h.ne_nil, h.separator_notMem, h.zero_notMem⟩,
    fun h => { ne_here := h.1.1, ne_up := h.1.2.1, length_le := h.1.2.2, ne_nil := h.2.1,
               separator_notMem := h.2.2.1, zero_notMem := h.2.2.2 }⟩

instance (c : Bytes) : Decidable (IsEntry c) := decidable_of_iff' _ isEntry_iff

/-- A single component of any length, which neither stays where it is nor goes up. -/
structure IsSingle (c : Bytes) : Prop where
  ne_here : c ≠ Path.here
  ne_up : c ≠ Path.up
  ne_nil : c ≠ []
  separator_notMem : Path.separator ∉ c
  zero_notMem : 0 ∉ c

theorem IsEntry.isSingle {c : Bytes} (h : IsEntry c) : IsSingle c :=
  ⟨h.ne_here, h.ne_up, h.ne_nil, h.separator_notMem, h.zero_notMem⟩

/-- The path leads to a directory. -/
structure LeadsTo (fs : FileSystem) (cwd : Location) (p : Path) (dir : Location) : Prop where
  located : fs.locate cwd true p = .ok dir
  directory : fs.lookup dir = some .directory

variable {fs : FileSystem} {cwd dir : Location} {p : Path} {last : Bool}

/-! ## Locations -/

theorem pathFault?_eq_none_iff :
    pathFault? p = none ↔ 0 ∉ p.bytes ∧ p.bytes ≠ [] ∧ p.bytes.length < pathLimit := by
  unfold pathFault? pathsFault? lengthFault?
  by_cases h0 : 0 ∈ p.bytes
  · simp [h0]
  · by_cases hnil : p.bytes = []
    · simp [hnil]
    · by_cases hlen : pathLimit ≤ p.bytes.length
      · simp [h0, hnil, hlen]
      · simp [h0, hnil, hlen, Nat.lt_of_not_le hlen]

theorem locate_eq_ok_iff {loc : Location} :
    fs.locate cwd last p = .ok loc ↔ pathFault? p = none ∧ Leads fs last linkLimit (base cwd p) p.components loc := by
  rw [← follow_eq_ok_iff, locate]
  cases pathFault? p with
  | none => exact ⟨fun h => ⟨rfl, h⟩, fun h => h.2⟩
  | some failure => exact ⟨fun h => (by cases h), fun h => (by cases h.1)⟩

theorem length_lt_of_read {contents : Bytes} (h : fs.read cwd p = .ok contents) : p.bytes.length < pathLimit := by
  unfold read nodeAt at h
  cases hloc : fs.locate cwd true p with
  | error failure =>
    rw [hloc] at h
    cases h
  | ok loc => exact (pathFault?_eq_none_iff.1 (locate_eq_ok_iff.1 hloc).1).2.2

section Join

variable {c : Bytes} (hc : IsSingle c)
include hc

theorem base_join : base cwd (p.join ⟨c⟩) = base cwd p := by
  rw [base, base, Path.isAbsolute_join hc.separator_notMem]

theorem pathFault?_join : pathFault? (p.join ⟨c⟩) = none ↔ 0 ∉ p.bytes ∧ (p.join ⟨c⟩).bytes.length < pathLimit := by
  have hne : (p.join ⟨c⟩).bytes ≠ [] := by
    rw [Path.bytes_join hc.separator_notMem]
    exact List.append_ne_nil_of_right_ne_nil _ hc.ne_nil
  rw [pathFault?_eq_none_iff, Path.mem_join hc.separator_notMem (by decide)]
  simp [hne, hc.zero_notMem]

theorem locate_join_iff {loc : Location} : fs.locate cwd last (p.join ⟨c⟩) = .ok loc ↔
    (0 ∉ p.bytes ∧ (p.join ⟨c⟩).bytes.length < pathLimit) ∧
      Leads fs last linkLimit (base cwd p) (Path.segments p.bytes ++ [c]) loc := by
  rw [locate_eq_ok_iff, pathFault?_join hc, base_join hc, Path.components_join hc.ne_nil hc.separator_notMem]

end Join

/-- The entries of the path are those of the directory: the path leads there, or it is empty and the program runs
there. -/
def EntriesIn (fs : FileSystem) (cwd : Location) (p : Path) (dir : Location) : Prop :=
  LeadsTo fs cwd p dir ∨ p.bytes = [] ∧ dir = cwd

theorem leadsTo_of_leads (hfault : pathFault? p = none)
    (h : Leads fs true linkLimit (base cwd p) (Path.segments p.bytes) dir) (hd : fs.lookup dir = some .directory) :
    LeadsTo fs cwd p dir := by
  refine ⟨locate_eq_ok_iff.2 ⟨hfault, ?_⟩, hd⟩
  rw [Path.components]
  split
  · exact h.append hd (List.cons_ne_nil _ _) (.here hd (.done dir))
  · exact h

theorem LeadsTo.bytes_ne_nil (hp : LeadsTo fs cwd p dir) : p.bytes ≠ [] :=
  (pathFault?_eq_none_iff.1 (locate_eq_ok_iff.1 hp.located).1).2.1

theorem EntriesIn.unique {dir' : Location} (h : EntriesIn fs cwd p dir) (h' : EntriesIn fs cwd p dir') :
    dir = dir' := by
  rcases h with h | ⟨hnil, rfl⟩
  · rcases h' with h' | ⟨hnil, -⟩
    · exact Except.ok.inj (h.located.symm.trans h'.located)
    · exact absurd hnil h.bytes_ne_nil
  · rcases h' with h' | ⟨-, rfl⟩
    · exact absurd hnil h'.bytes_ne_nil
    · rfl

/-- The location is the entry `c` of the path, or the entry is a link and the location is anywhere. -/
def AtEntry (fs : FileSystem) (cwd : Location) (p : Path) (c : Bytes) (loc : Location) : Prop :=
  ∃ dir, EntriesIn fs cwd p dir ∧ (loc = dir ++ [c] ∨ ∃ target, fs.lookup (dir ++ [c]) = some (.link target))

/-- **A path to an entry leads to that entry of the directory and nowhere else**, unless the entry is a link. -/
theorem atEntry_of_locate {c : Bytes} (hc : IsSingle c) {loc : Location}
    (h : fs.locate cwd last (p.join ⟨c⟩) = .ok loc) : AtEntry fs cwd p c loc := by
  obtain ⟨⟨hzero, hlen⟩, hlead⟩ := (locate_join_iff hc).1 h
  obtain ⟨dir, stop, hdir, hd, hstep, hend⟩ := hlead.of_concat
  refine ⟨dir, ?_, ?_⟩
  · by_cases hp : p.bytes = []
    · refine .inr ⟨hp, ?_⟩
      rw [hp] at hdir
      have hbase : base cwd p = cwd := by
        rw [base, Path.isAbsolute, hp]
        rfl
      cases hdir with
      | found hdone =>
        cases hdone
        exact hbase
      | link hlink => cases hlink
    · have hshort : p.bytes.length < pathLimit := by
        rw [Path.length_join hc.separator_notMem] at hlen
        split at hlen <;> omega
      exact .inl (leadsTo_of_leads (pathFault?_eq_none_iff.2 ⟨hzero, hp, hshort⟩) hdir hd)
  · rcases hstep.of_name (hstep.isName hc.ne_here hc.ne_up) with rfl | hlink
    · exact .inl (hend _ rfl).symm
    · exact .inr hlink

theorem read_eq_ok_iff {bytes : Bytes} : fs.read cwd p = .ok bytes ↔
    ∃ loc node, fs.locate cwd true p = .ok loc ∧ fs.lookup loc = some node ∧ contentsOf node = .ok bytes := by
  unfold read nodeAt
  cases fs.locate cwd true p with
  | error failure => simp
  | ok loc => cases hn : fs.lookup loc <;> simp [hn]

theorem file_of_read {bytes : Bytes} (h : fs.read cwd p = .ok bytes) (hne : bytes ≠ []) :
    ∃ loc, fs.locate cwd true p = .ok loc ∧ fs.lookup loc = some (.file bytes) := by
  obtain ⟨loc, node, hloc, hnode, hcontents⟩ := read_eq_ok_iff.1 h
  cases node with
  | file contents =>
    cases hcontents
    exact ⟨loc, hloc, hnode⟩
  | directory => cases hcontents
  | link target => cases hcontents
  | device kind => exact absurd (Except.ok.inj hcontents).symm hne

theorem remove_eq_ok_iff {files : FileSystem} : fs.remove cwd p = .ok files ↔
    ∃ loc node, fs.locate cwd false p = .ok loc ∧ fs.lookup loc = some node ∧ node ≠ .directory ∧
      files = fs.erase loc := by
  unfold remove
  cases fs.locate cwd false p with
  | error failure => simp
  | ok loc =>
    cases hn : fs.lookup loc with
    | none => simp [hn]
    | some node => cases node <;> simp [hn, eq_comm]

namespace LeadsTo

variable (hp : LeadsTo fs cwd p dir)
include hp

theorem mono {fs' : FileSystem} (hsub : KeepsWays fs' fs) : LeadsTo fs' cwd p dir := by
  obtain ⟨hfault, hlead⟩ := locate_eq_ok_iff.1 hp.located
  exact ⟨locate_eq_ok_iff.2 ⟨hfault, hlead.mono hsub (.inl hp.directory)⟩, hsub.directory hp.directory⟩

/-- A separator at the end of the path makes no difference. -/
theorem leads : Leads fs true linkLimit (base cwd p) (Path.segments p.bytes) dir := by
  have h := (locate_eq_ok_iff.1 hp.located).2
  rw [Path.components] at h
  by_cases ho : p.endsOpen = true
  · rw [if_pos ho] at h
    exact h.of_here.2
  · rw [if_neg ho] at h
    exact h

theorem list_eq : fs.list cwd p = .ok (fs.children dir) := by
  rw [list, hp.located]
  simp only [hp.directory]

variable {c : Bytes} (hc : IsEntry c) (hlen : (p.join ⟨c⟩).bytes.length < pathLimit)
  (hlink : ∀ target, fs.lookup (dir ++ [c]) ≠ some (.link target))
include hc hlen hlink

theorem locate_join : fs.locate cwd last (p.join ⟨c⟩) = .ok (dir ++ [c]) := by
  have hzero := (pathFault?_eq_none_iff.1 (locate_eq_ok_iff.1 hp.located).1).1
  have hstep : Advances fs last dir [c] (.found (dir ++ [c])) := by
    cases hn : fs.lookup (dir ++ [c]) with
    | none => exact .free hp.directory hc.toIsName hn
    | some node => exact .entry hp.directory hc.toIsName hn (fun target ht => hlink target (ht ▸ hn)) (.done _)
  exact (locate_join_iff hc.isSingle).2 ⟨⟨hzero, hlen⟩, hp.leads.append hp.directory (List.cons_ne_nil _ _) hstep⟩

end LeadsTo

/-! ## Files and free entries -/

theorem not_link_of_contents {loc : Location} {contents : Option Bytes}
    (h : fs.lookup loc = contents.map Node.file) (target : Path) : fs.lookup loc ≠ some (.link target) := by
  rw [h]
  cases contents with
  | none => exact fun heq => by cases heq
  | some bytes => exact fun heq => by cases heq

namespace LeadsTo

variable (hp : LeadsTo fs cwd p dir) {c : Bytes} (hc : IsEntry c) (hlen : (p.join ⟨c⟩).bytes.length < pathLimit)
  {contents : Option Bytes} (h : fs.lookup (dir ++ [c]) = contents.map Node.file)
include hp hc hlen h

theorem read_join : fs.read cwd (p.join ⟨c⟩) = contents.elim (.error .noEntry) .ok := by
  rw [read, nodeAt, hp.locate_join hc hlen (not_link_of_contents h)]
  simp only [h]
  cases contents <;> rfl

theorem remove_join :
    fs.remove cwd (p.join ⟨c⟩) = contents.elim (.error .noEntry) fun _ => .ok (fs.erase (dir ++ [c])) := by
  rw [remove, hp.locate_join hc hlen (not_link_of_contents h)]
  simp only [h]
  cases contents <;> rfl

end LeadsTo

end FileSystem
end FirmwareVars
