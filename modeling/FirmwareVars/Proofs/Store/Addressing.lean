import FirmwareVars.Proofs.EntryName.RoundTrip
import FirmwareVars.Proofs.Store.Catalogue
import FirmwareVars.Proofs.Store.Enumeration
/-!
# From the listing to the files

An entry name may be read in either case and is written in lower case, so what is done to a listed identity is done to
the entry in lower case (`lowered`).  That is the entry which was listed when the GUID of that was in lower case, and
then reading gives its contents and deleting clears it.  Another entry is listed, but what is read or deleted for it is
its namesake in lower case, if there is one (`list_addressed`).
-/
namespace FirmwareVars

open FileSystem (LeadsTo IsEntry)
open EntryName (Addressable Spells lowered)

/-! ## The identities of entries -/

theorem EntryName.addressable_of_spells {entry : Text} {i : Identity} (h : Spells entry i)
    (hc : IsEntry (Utf8.encode entry)) : Addressable i := by
  obtain ⟨t, ht, -⟩ := h.hyphenated
  have hmem {c : Char} (hin : c ∈ i.name) : c ∈ entry := by
    rw [ht]
    exact List.mem_append_left _ hin
  refine ⟨h.ne_nil, fun hslash => ?_, fun hzero => ?_⟩
  · exact hc.separator_notMem (Utf8.mem_encode (hmem hslash) (by decide))
  · exact hc.zero_notMem (Utf8.mem_encode (hmem hzero) (by decide))

/-- Entries in lower case are written for their identities. -/
theorem EntryName.map_lowered : ∀ {entries : List Text} {ids : List Identity},
    entries.map decode = ids.map .ok → entries.map lowered = ids.map Identity.spell
  | [], ids, h => by
    obtain rfl := List.map_eq_nil_iff.1 h.symm
    rfl
  | entry :: entries, [], h => by cases h
  | entry :: entries, i :: ids, h => by
    obtain ⟨hhead, htail⟩ := List.cons.inj h
    rw [List.map_cons, List.map_cons, map_lowered htail, lowered_of_spells (decode_eq_ok_iff.1 hhead)]

namespace Store

/-! ## Directories of files -/

/-- The root leads to a directory of files, and the host reads each of them by its path.  As in any directory of a
host, no entry is there twice, and each has a name that an entry can have. -/
structure Readable (s : Store) (m : Machine) (dir : Location) : Prop where
  root : LeadsTo m.files m.cwd s.root dir
  nodup : (m.files.children dir).Nodup
  entry : ∀ c ∈ m.files.children dir, IsEntry c
  file : ∀ c ∈ m.files.children dir, ∃ contents, m.files.fileAt? (dir ++ [c]) = some contents ∧
    m.files.read m.cwd (s.root.join ⟨c⟩) = .ok contents

theorem readable_iff {s : Store} {m : Machine} {dir : Location} : s.Readable m dir ↔
    (m.files.locate m.cwd true s.root = .ok dir ∧ m.files.lookup dir = some .directory) ∧
    (m.files.children dir).Nodup ∧ (∀ c ∈ m.files.children dir, IsEntry c) ∧
    ∀ c ∈ m.files.children dir,
      (m.files.fileAt? (dir ++ [c])).map Except.ok = some (m.files.read m.cwd (s.root.join ⟨c⟩)) := by
  have hfile (c : Bytes) : (∃ contents, m.files.fileAt? (dir ++ [c]) = some contents ∧
      m.files.read m.cwd (s.root.join ⟨c⟩) = .ok contents) ↔
      (m.files.fileAt? (dir ++ [c])).map Except.ok = some (m.files.read m.cwd (s.root.join ⟨c⟩)) := by
    simp [Option.map_eq_some_iff, eq_comm]
  simp only [← hfile]
  exact ⟨fun h => ⟨⟨h.root.located, h.root.directory⟩, h.nodup, h.entry, h.file⟩,
    fun h => ⟨⟨h.1.1, h.1.2⟩, h.2.1, h.2.2.1, h.2.2.2⟩⟩

instance (s : Store) (m : Machine) (dir : Location) : Decidable (s.Readable m dir) := decidable_of_iff' _ readable_iff

namespace Readable

variable {s : Store} {m : Machine} {dir : Location} (h : s.Readable m dir)
include h

theorem heard (events : List Event) : s.Readable (m.heard events) dir := ⟨h.root, h.nodup, h.entry, h.file⟩

theorem lookup_eq (c : Bytes) :
    m.files.lookup (dir ++ [c]) = (m.files.fileAt? (dir ++ [c])).map Node.file := by
  cases hfile : m.files.fileAt? (dir ++ [c]) with
  | some contents => exact FileSystem.fileAt?_eq_some_iff.1 hfile
  | none =>
    cases hnode : m.files.lookup (dir ++ [c]) with
    | none => rfl
    | some node =>
      obtain ⟨contents, hcontents, -⟩ := h.file c (FileSystem.mem_children_iff.2 ⟨node, hnode⟩)
      rw [hfile] at hcontents
      cases hcontents

/-- The host takes the entry name that is written for the identity of an entry: it is as long. -/
theorem fits {t : Text} {i : Identity} (ht : Utf8.encode t ∈ m.files.children dir) (hs : Spells t i) : s.Fits i := by
  have hentry := h.entry _ ht
  have hspell := EntryName.spells_spell hs.ne_nil
  have hlength : (Utf8.encode i.spell).length = (Utf8.encode t).length := by
    rw [hspell.length_encode, hs.length_encode]
  have hle : (Utf8.encode i.spell).length ≤ FileSystem.nameLimit := by
    rw [hlength]
    exact hentry.length_le
  have hwritten := EntryName.isEntry_encode (EntryName.addressable_of_spells hs hentry) hle
  obtain ⟨contents, -, hread⟩ := h.file _ ht
  have hpath := FileSystem.length_lt_of_read hread
  rw [Path.length_join hentry.separator_notMem] at hpath
  refine ⟨hle, ?_⟩
  rw [variablePath, Path.ofText, Path.length_join hwritten.separator_notMem, hlength]
  exact hpath

/-- **Clearing an entry leaves a directory of files.** -/
theorem erase {c : Bytes} (hc : c ∈ m.files.children dir) :
    s.Readable (m.holding (m.files.erase (dir ++ [c]))) dir := by
  obtain ⟨contents, hcontents, -⟩ := h.file c hc
  have hways := FileSystem.keepsWays_erase (List.concat_ne_nil c dir) (FileSystem.fileAt?_eq_some_iff.1 hcontents)
  have hroot := h.root.mono hways
  have hmem {c' : Bytes} (h' : c' ∈ (m.files.erase (dir ++ [c])).children dir) :
      c' ∈ m.files.children dir ∧ c' ≠ c := by
    rw [FileSystem.children_erase, List.mem_filter, bne_iff_ne] at h'
    exact h'
  refine ⟨hroot, FileSystem.nodup_children_erase h.nodup, fun c' h' => h.entry c' (hmem h').1, fun c' h' => ?_⟩
  obtain ⟨hin, hne⟩ := hmem h'
  obtain ⟨bytes, hbytes, hread⟩ := h.file c' hin
  have hlookup : (m.files.erase (dir ++ [c])).lookup (dir ++ [c']) = (some bytes).map Node.file := by
    have hloc : dir ++ [c'] ≠ dir ++ [c] := by simpa using hne
    rw [FileSystem.lookup_erase (List.concat_ne_nil c dir), if_neg hloc]
    exact FileSystem.fileAt?_eq_some_iff.1 hbytes
  exact ⟨bytes, FileSystem.fileAt?_eq_some_iff.2 hlookup,
    hroot.read_join (h.entry c' hin) (FileSystem.length_lt_of_read hread) hlookup⟩

/-! ## Single identities -/

variable {i : Identity} (ha : Addressable i) (hf : s.Fits i)
include ha hf

theorem fst_run_read : (m.run (s.read i).run).1 =
    (m.files.fileAt? (dir ++ [Utf8.encode i.spell])).elim (.error (.notFound (s.variablePath i))) .ok := by
  rw [run_read h.root ha hf (h.lookup_eq _)]
  cases m.files.fileAt? (dir ++ [Utf8.encode i.spell]) <;> rfl

theorem run_delete :
    (m.run (s.delete i).run).1 =
      .ok (if Utf8.encode i.spell ∈ m.files.children dir then .deleted else .absent) ∧
    s.Readable (m.run (s.delete i).run).2 dir ∧
    ∀ c, c ∈ (m.run (s.delete i).run).2.files.children dir ↔
      c ∈ m.files.children dir ∧ c ≠ Utf8.encode i.spell := by
  have hrun := Store.run_delete h.root ha hf (h.lookup_eq _)
  by_cases hin : Utf8.encode i.spell ∈ m.files.children dir
  · obtain ⟨contents, hcontents, -⟩ := h.file _ hin
    rw [hcontents] at hrun
    rw [hrun, if_pos hin]
    refine ⟨rfl, (h.erase hin).heard _, fun c => ?_⟩
    have hchildren := FileSystem.children_erase m.files dir (Utf8.encode i.spell)
    simp [hchildren]
  · have hnone : m.files.fileAt? (dir ++ [Utf8.encode i.spell]) = none := by
      cases hfile : m.files.fileAt? (dir ++ [Utf8.encode i.spell]) with
      | none => rfl
      | some contents =>
        have hnode := FileSystem.fileAt?_eq_some_iff.1 hfile
        exact absurd (FileSystem.mem_children_iff.2 ⟨_, hnode⟩) hin
    rw [hnone] at hrun
    rw [hrun, if_neg hin]
    refine ⟨rfl, h.heard _, fun c => ?_⟩
    have hne : c ∈ m.files.children dir → c ≠ Utf8.encode i.spell := fun hc heq => hin (heq ▸ hc)
    simpa using hne

end Readable

/-! ## Deleting one after another -/

def deletions (s : Store) (ids : List Identity) : List (Store × Call) := ids.map fun i => (s, .delete i)

/-- **Deleting identities clears their entries and no others**, each at its first turn. -/
theorem session_deletions {s : Store} {dir : Location} : ∀ {ids : List Identity} {m : Machine},
    s.Readable m dir → (∀ i ∈ ids, Addressable i ∧ s.Fits i) →
      (session m (deletions s ids)).1 = (ids.mapIdx fun k i => .outcome (.ok
        (if Utf8.encode i.spell ∈ m.files.children dir ∧ i ∉ ids.take k then .deleted else .absent))) ∧
      s.Readable (session m (deletions s ids)).2 dir ∧
      ∀ c, c ∈ (session m (deletions s ids)).2.files.children dir ↔
        c ∈ m.files.children dir ∧ ∀ i ∈ ids, c ≠ Utf8.encode i.spell
  | [], m, h, _ => ⟨rfl, h, fun c => by simp [deletions, session]⟩
  | i :: ids, m, h, hids => by
    obtain ⟨ha, hf⟩ := hids i List.mem_cons_self
    obtain ⟨hreply, hafter, hleft⟩ := h.run_delete ha hf
    obtain ⟨hreplies, hend, hrest⟩ := session_deletions hafter fun j hj => hids j (List.mem_cons_of_mem i hj)
    have hstep : session m (deletions s (i :: ids)) =
        (.outcome (m.run (s.delete i).run).1 :: (session (m.run (s.delete i).run).2 (deletions s ids)).1,
          (session (m.run (s.delete i).run).2 (deletions s ids)).2) := rfl
    rw [hstep]
    refine ⟨?_, hend, fun c => ?_⟩
    · rw [hreply, hreplies, List.mapIdx_cons]
      refine congrArg₂ List.cons (by simp) (congrArg (List.mapIdx · ids) ?_)
      funext k j
      -- an entry is still there unless it is the one just cleared
      have hspell : Utf8.encode j.spell ≠ Utf8.encode i.spell ↔ j ≠ i :=
        not_congr ⟨fun heq => EntryName.spell_injective (Utf8.encode_injective heq), fun heq => by rw [heq]⟩
      simp only [hleft, hspell, List.take_succ_cons, List.mem_cons, not_or, and_assoc]
    · rw [hrest, hleft]
      simp [and_assoc]

/-! ## What is listed -/

section Listed

variable {s : Store} {m : Machine} {dir : Location} (h : s.Readable m dir) {ids : List Identity}
  (hlist : (m.run s.list.run).1 = .ok ids)
include h hlist

/-- The texts of the entries, each once, in the order of the listing. -/
theorem exists_entries : ∃ ts : List Text, ts.Nodup ∧ (∀ t, t ∈ ts ↔ Utf8.encode t ∈ m.files.children dir) ∧
    (∀ c ∈ m.files.children dir, ∃ t ∈ ts, c = Utf8.encode t) ∧ ts.map EntryName.decode = ids.map .ok := by
  obtain ⟨ts, hperm, -, hids⟩ := sorted_of_listed h.root.list_eq hlist
  have hnodup : (ts.map Utf8.encode).Nodup := hperm.nodup_iff.2 h.nodup
  refine ⟨ts, hnodup.of_map _, fun t => ?_, fun c hc => ?_, hids⟩
  · rw [← hperm.mem_iff]
    exact (List.mem_map_of_injective fun _ _ => Utf8.encode_injective).symm
  · obtain ⟨t, ht, rfl⟩ := List.mem_map.1 (hperm.mem_iff.2 hc)
    exact ⟨t, ht, rfl⟩

theorem mem_listed_iff {i : Identity} :
    i ∈ ids ↔ ∃ t, Utf8.encode t ∈ m.files.children dir ∧ EntryName.decode t = .ok i := by
  obtain ⟨ts, -, hmem, -, hids⟩ := exists_entries h hlist
  rw [mem_iff_decode hids]
  simp only [hmem]

theorem addressed_of_listed {i : Identity} (hi : i ∈ ids) : Addressable i ∧ s.Fits i := by
  obtain ⟨t, ht, hdecode⟩ := (mem_listed_iff h hlist).1 hi
  have hs := EntryName.decode_eq_ok_iff.1 hdecode
  exact ⟨EntryName.addressable_of_spells hs (h.entry _ ht), h.fits ht hs⟩

/-- **An identity is listed twice exactly when two entries are the same in lower case.** -/
theorem nodup_listed_iff : ids.Nodup ↔ ∀ t u, Utf8.encode t ∈ m.files.children dir →
    Utf8.encode u ∈ m.files.children dir → lowered t = lowered u → t = u := by
  obtain ⟨ts, hnodup, hmem, -, hids⟩ := exists_entries h hlist
  have hspell : (ids.map Identity.spell).Nodup ↔ ids.Nodup :=
    List.nodup_map_iff fun _ _ => EntryName.spell_injective
  rw [← hspell, ← EntryName.map_lowered hids, List.nodup_map_iff_inj_on hnodup]
  simp only [hmem]
  exact ⟨fun hinj t u ht hu => hinj t ht u hu, fun hinj t ht u hu => hinj t u ht hu⟩

/-- **The entries that no listed identity has for its own are those with other than lower-case digits.** -/
theorem unaddressed_iff {c : Bytes} (hc : c ∈ m.files.children dir) :
    (∀ i ∈ ids, c ≠ Utf8.encode i.spell) ↔ ∃ t, c = Utf8.encode t ∧ lowered t ≠ t := by
  obtain ⟨ts, -, hmem, htexts, hids⟩ := exists_entries h hlist
  constructor
  · intro hno
    obtain ⟨t, ht, rfl⟩ := htexts c hc
    obtain ⟨i, hdecode⟩ := decode_of_mem hids ht
    have hs := EntryName.decode_eq_ok_iff.1 hdecode
    refine ⟨t, rfl, fun heq => hno i ((mem_listed_iff h hlist).2 ⟨t, hc, hdecode⟩) ?_⟩
    rw [← EntryName.lowered_of_spells hs, heq]
  · rintro ⟨t, rfl, hne⟩ i hi heq
    obtain ⟨ha, -⟩ := addressed_of_listed h hlist hi
    apply hne
    rw [Utf8.encode_injective heq, EntryName.lowered_spell ha.1]

/-- **What is read for an entry are the contents of the entry in lower case.** -/
theorem fst_run_read_listed {t : Text} {i : Identity} (ht : Utf8.encode t ∈ m.files.children dir)
    (hdecode : EntryName.decode t = .ok i) :
    (m.run (s.read i).run).1 = (m.files.fileAt? (dir ++ [Utf8.encode (lowered t)])).elim
      (.error (.notFound (s.variablePath i))) .ok := by
  obtain ⟨ha, hf⟩ := addressed_of_listed h hlist ((mem_listed_iff h hlist).2 ⟨t, ht, hdecode⟩)
  rw [h.fst_run_read ha hf, EntryName.lowered_of_spells (EntryName.decode_eq_ok_iff.1 hdecode)]

/-- **Deleting all that is listed leaves the entries with other than lower-case digits.** -/
theorem mem_children_session_deletions {c : Bytes} : c ∈ (session m (deletions s ids)).2.files.children dir ↔
    c ∈ m.files.children dir ∧ ∃ t, c = Utf8.encode t ∧ lowered t ≠ t := by
  obtain ⟨-, -, hleft⟩ := session_deletions h fun i hi => addressed_of_listed h hlist hi
  rw [hleft]
  exact and_congr_right fun hc => unaddressed_iff h hlist hc

end Listed

theorem notMem_take_of_nodup {ids : List Identity} (h : ids.Nodup) {k : Nat} {i : Identity} (hk : ids[k]? = some i) :
    i ∉ ids.take k := by
  intro hmem
  have hdrop : i ∈ ids.drop k := by
    have hhead : (ids.drop k)[0]? = some i := by
      rw [List.getElem?_drop]
      exact hk
    exact List.mem_of_getElem? hhead
  exact List.disjoint_take_drop h (Nat.le_refl k) hmem hdrop

/-- Different identities that all have an entry are all deleted. -/
theorem mapIdx_replies_eq {ids : List Identity} {names : List Bytes} (hnodup : ids.Nodup)
    (hin : ∀ i ∈ ids, Utf8.encode i.spell ∈ names) :
    (ids.mapIdx fun k i => Reply.outcome (.ok
      (if Utf8.encode i.spell ∈ names ∧ i ∉ ids.take k then .deleted else .absent))) =
      ids.map fun _ => .outcome (.ok .deleted) := by
  refine List.ext_getElem? fun k => ?_
  rw [List.getElem?_mapIdx, List.getElem?_map]
  cases hk : ids[k]? with
  | none => rfl
  | some i => simp [hin i (List.mem_of_getElem? hk), notMem_take_of_nodup hnodup hk]

/-- **What is listed is addressed in lower case.**  In a directory of files that can be listed, what is listed are the
identities of its entries, and no identity twice unless two entries differ in the case of the GUID only.  What is read
for the identity of an entry are the contents of that entry with its GUID in lower case, so those of the very entry
when its GUID is, and nothing is found when there is no such entry.  Deleting every listed identity deletes each at its
first turn if there is such an entry, and leaves the entries whose GUID is not in lower case and no others.  So where
every GUID is in lower case, no identity is listed twice, the contents of each entry are read for its identity, and
deleting every listed identity deletes each and leaves the directory empty. -/
theorem list_addressed (m : Machine) (s : Store) (dir : Location) (h : s.Readable m dir) (ids : List Identity)
    (hlist : (m.run s.list.run).1 = .ok ids) :
    (∀ i, i ∈ ids ↔ ∃ t, Utf8.encode t ∈ m.files.children dir ∧ EntryName.decode t = .ok i) ∧
    (ids.Nodup ↔ ∀ t u, Utf8.encode t ∈ m.files.children dir → Utf8.encode u ∈ m.files.children dir →
      lowered t = lowered u → t = u) ∧
    (∀ t i, Utf8.encode t ∈ m.files.children dir → EntryName.decode t = .ok i →
      (m.run (s.read i).run).1 = (m.files.fileAt? (dir ++ [Utf8.encode (lowered t)])).elim
        (.error (.notFound (s.variablePath i))) .ok) ∧
    ((session m (deletions s ids)).1 = ids.mapIdx fun k i => .outcome (.ok
      (if Utf8.encode i.spell ∈ m.files.children dir ∧ i ∉ ids.take k then .deleted else .absent))) ∧
    (∀ c, c ∈ (session m (deletions s ids)).2.files.children dir ↔
      c ∈ m.files.children dir ∧ ∃ t, c = Utf8.encode t ∧ lowered t ≠ t) ∧
    ((∀ t, Utf8.encode t ∈ m.files.children dir → lowered t = t) →
      ids.Nodup ∧
      (∀ t i, Utf8.encode t ∈ m.files.children dir → EntryName.decode t = .ok i →
        ∃ contents, m.files.fileAt? (dir ++ [Utf8.encode t]) = some contents ∧
          (m.run (s.read i).run).1 = .ok contents) ∧
      (session m (deletions s ids)).1 = ids.map (fun _ => .outcome (.ok .deleted)) ∧
      (session m (deletions s ids)).2.files.list (session m (deletions s ids)).2.cwd s.root = .ok []) := by
  have hlisted (i : Identity) := mem_listed_iff h hlist (i := i)
  have hnodup := nodup_listed_iff h hlist
  obtain ⟨hreplies, hafter, -⟩ := session_deletions h fun i hi => addressed_of_listed h hlist hi
  refine ⟨hlisted, hnodup, fun t i => fst_run_read_listed h hlist, hreplies,
    fun c => mem_children_session_deletions h hlist, fun hlower => ?_⟩
  have honce : ids.Nodup := by
    rw [hnodup]
    intro t u ht hu heq
    rwa [hlower t ht, hlower u hu] at heq
  have hown : ∀ i ∈ ids, Utf8.encode i.spell ∈ m.files.children dir := by
    intro i hi
    obtain ⟨t, ht, hdecode⟩ := (hlisted i).1 hi
    rw [← EntryName.lowered_of_spells (EntryName.decode_eq_ok_iff.1 hdecode), hlower t ht]
    exact ht
  refine ⟨honce, fun t i ht hdecode => ?_, hreplies.trans (mapIdx_replies_eq honce hown), ?_⟩
  · obtain ⟨contents, hcontents, -⟩ := h.file _ ht
    have hread := fst_run_read_listed h hlist ht hdecode
    rw [hlower t ht, hcontents] at hread
    exact ⟨contents, hcontents, hread⟩
  · rw [hafter.root.list_eq]
    congr 1
    refine List.eq_nil_iff_forall_not_mem.2 fun c hc => ?_
    obtain ⟨hin, t, rfl, hne⟩ := (mem_children_session_deletions h hlist).1 hc
    exact hne (hlower t hin)

/-- Two entries in lower case, and then one more in upper case, which has a namesake among them. -/
theorem list_addressed_pair :
    let a : Text := "A-00000000-0000-0000-0000-00000000000a".toList
    let upper : Text := "A-00000000-0000-0000-0000-00000000000A".toList
    let b : Text := "B-00000000-0000-0000-0000-00000000000b".toList
    let i : Identity := ⟨['A'], ⟨0, 0, 0, 10⟩⟩
    let j : Identity := ⟨['B'], ⟨0, 0, 0, 11⟩⟩
    let s : Store := .atRoot ⟨[0x64]⟩
    let store (files : List (Text × Bytes)) : Machine :=
      ⟨⟨([[0x64]], .directory) :: files.map fun f => ([[0x64], Utf8.encode f.1], .file f.2)⟩, [], [], []⟩
    let m : Machine := store [(b, [3]), (a, [2])]
    let mixed : Machine := store [(b, [3]), (a, [2]), (upper, [1])]
    (s.Readable m [[0x64]] ∧ (m.run s.list.run).1 = .ok [i, j] ∧ [i, j].Nodup ∧
      (m.run (s.read j).run).1 = .ok [3] ∧
      (session m (deletions s [i, j])).1 = [.outcome (.ok .deleted), .outcome (.ok .deleted)] ∧
      (session m (deletions s [i, j])).2.files.list (session m (deletions s [i, j])).2.cwd s.root = .ok []) ∧
    s.Readable mixed [[0x64]] ∧ (mixed.run s.list.run).1 = .ok [i, i, j] ∧ EntryName.decode upper = .ok i ∧
      (mixed.run (s.read i).run).1 = .ok [2] ∧
      (session mixed (deletions s [i, i, j])).1 =
        [.outcome (.ok .deleted), .outcome (.ok .absent), .outcome (.ok .deleted)] ∧
      Utf8.encode upper ∈ (session mixed (deletions s [i, i, j])).2.files.children [[0x64]] := by
  intro a upper b i j s store m mixed
  have hua : Utf8.encode upper ≤ Utf8.encode a := by decide
  have hab : Utf8.encode a ≤ Utf8.encode b := by decide
  constructor
  · have hchildren : m.files.children [[0x64]] = [b, a].map Utf8.encode := rfl
    have h : s.Readable m [[0x64]] := by decide +kernel
    have hlist : (m.run s.list.run).1 = .ok [i, j] := by
      have htexts : m.files.list m.cwd s.root = .ok ([b, a].map Utf8.encode) := rfl
      have hsort : EntryName.sort [b, a] = [a, b] :=
        EntryName.sort_unique (List.Perm.swap b a []) (List.pairwise_pair.2 hab)
      have hids : (EntryName.sort [b, a]).map EntryName.decode = [i, j].map .ok := by
        rw [hsort]
        decide +kernel
      rw [run_list_ok htexts hids]
    have hlower : ∀ t, Utf8.encode t ∈ m.files.children [[0x64]] → lowered t = t := by
      intro t ht
      rw [hchildren, List.mem_map_of_injective fun _ _ => Utf8.encode_injective] at ht
      revert t
      decide +kernel
    obtain ⟨-, -, -, -, -, hall⟩ := list_addressed m s [[0x64]] h [i, j] hlist
    obtain ⟨hnodup, hread, hreplies, hend⟩ := hall hlower
    obtain ⟨contents, hcontents, hj⟩ := hread b j (by rw [hchildren]; simp) (by decide +kernel)
    have hthree : m.files.fileAt? [[0x64], Utf8.encode b] = some [3] := by decide +kernel
    obtain rfl := Option.some.inj (hcontents.symm.trans hthree)
    exact ⟨h, hlist, hnodup, hj, hreplies, hend⟩
  · have h : s.Readable mixed [[0x64]] := by decide +kernel
    have hlist : (mixed.run s.list.run).1 = .ok [i, i, j] := by
      have htexts : mixed.files.list mixed.cwd s.root = .ok ([b, a, upper].map Utf8.encode) := rfl
      have hsort : EntryName.sort [b, a, upper] = [upper, a, b] := by
        refine EntryName.sort_unique (List.reverse_perm [b, a, upper]) ?_
        exact List.pairwise_cons.2 ⟨by simpa using ⟨hua, List.le_trans hua hab⟩, List.pairwise_pair.2 hab⟩
      have hids : (EntryName.sort [b, a, upper]).map EntryName.decode = [i, i, j].map .ok := by
        rw [hsort]
        decide +kernel
      rw [run_list_ok htexts hids]
    have hupper : Utf8.encode upper ∈ mixed.files.children [[0x64]] := by decide +kernel
    have hdecode : EntryName.decode upper = .ok i := by decide +kernel
    have htwo : mixed.files.fileAt? ([[0x64]] ++ [Utf8.encode (lowered upper)]) = some [2] := by decide +kernel
    obtain ⟨-, -, hread, hreplies, hleft, -⟩ := list_addressed mixed s [[0x64]] h [i, i, j] hlist
    refine ⟨h, hlist, hdecode, ?_, hreplies.trans (by decide +kernel), (hleft _).2 ⟨hupper, upper, rfl, by decide +kernel⟩⟩
    rw [hread upper i hupper hdecode, htwo]
    rfl

/-- An entry in upper case alone, and with its namesake in lower case. -/
theorem list_not_addressed :
    let upper : Text := "A-00000000-0000-0000-0000-00000000000A".toList
    let lower : Text := "A-00000000-0000-0000-0000-00000000000a".toList
    let i : Identity := ⟨['A'], ⟨0, 0, 0, 10⟩⟩
    let s : Store := .atRoot ⟨[0x64]⟩
    let m : Machine := ⟨⟨[([[0x64]], .directory), ([[0x64], Utf8.encode upper], .file [2])]⟩, [], [], []⟩
    let both : Machine := m.holding (m.files.insert [[0x64], Utf8.encode lower] (.file [3]))
    (s.Readable m [[0x64]] ∧ (m.run s.list.run).1 = .ok [i] ∧ EntryName.decode upper = .ok i ∧
      (m.run (s.read i).run).1 = .error (.notFound (s.variablePath i)) ∧
      (session m (deletions s [i])).1 = [.outcome (.ok .absent)] ∧
      (session m (deletions s [i])).2.files.children [[0x64]] = [Utf8.encode upper]) ∧
    s.Readable both [[0x64]] ∧ (both.run s.list.run).1 = .ok [i, i] := by
  intro upper lower i s m both
  have hm : m.files.list m.cwd s.root = .ok ([upper].map Utf8.encode) := rfl
  have hboth : both.files.list both.cwd s.root = .ok ([upper, lower].map Utf8.encode) := rfl
  have hle : Utf8.encode upper ≤ Utf8.encode lower := by decide
  have hsort : EntryName.sort [upper] = [upper] := List.mergeSort_singleton upper
  have hsort' : EntryName.sort [upper, lower] = [upper, lower] :=
    EntryName.sort_unique (.refl _) (List.pairwise_pair.2 hle)
  have hids : (EntryName.sort [upper]).map EntryName.decode = [i].map .ok := by
    rw [hsort]
    decide +kernel
  have hids' : (EntryName.sort [upper, lower]).map EntryName.decode = [i, i].map .ok := by
    rw [hsort']
    decide +kernel
  refine ⟨⟨by decide +kernel, ?_, by decide +kernel, by decide +kernel, by decide +kernel, by decide +kernel⟩,
    by decide +kernel, ?_⟩
  · rw [run_list_ok hm hids]
  · rw [run_list_ok hboth hids']

end Store
end FirmwareVars
