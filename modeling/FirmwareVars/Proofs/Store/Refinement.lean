import FirmwareVars.Proofs.Store.Catalogue
import FirmwareVars.Proofs.Store.Enumeration
/-!
# A store refines a finite map

A directory that was empty in the beginning and is used through stores only holds the files of a catalogue and nothing
else (`Represents`).  Every call keeps this up and gives what the catalogue says (`carryOut_represents`), so whole
sessions do (`session_represents`, `session_refines_catalogue`).  The names that are listed are those of the catalogue
because no entry of the directory is anything but the entry name of a key.
-/
namespace FirmwareVars
namespace Store

open FileSystem (LeadsTo)
open EntryName (Addressable)

/-- The directory holds the files of the catalogue and nothing else; elsewhere the host has what it had before. -/
structure Represents (m₀ : Machine) (dir : Location) (m : Machine) (cat : Catalogue) : Prop where
  cwd : m.cwd = m₀.cwd
  elsewhere : ∀ loc, (∀ c, loc ≠ dir ++ [c]) → m.files.lookup loc = m₀.files.lookup loc
  files : ∀ k : Key, m.files.lookup (dir ++ [k.entry]) = ((cat.lookup k).map Variable.toBytes).map Node.file
  entries : ∀ c ∈ m.files.children dir, ∃ k : Key, c = k.entry
  nodup : (m.files.children dir).Nodup

theorem entry_inj {dir : Location} {c c' : Bytes} : dir ++ [c] = dir ++ [c'] ↔ c = c' :=
  (List.append_right_inj dir).trans List.singleton_inj

namespace Represents

variable {m₀ m : Machine} {dir : Location} {cat : Catalogue}

/-- **An empty directory holds nothing.** -/
theorem empty (hempty : m₀.files.children dir = []) : Represents m₀ dir m₀ ∅ where
  cwd := rfl
  elsewhere := fun _ _ => rfl
  files := fun k => by
    rw [Finmap.lookup_empty, FileSystem.lookup_of_children_eq_nil hempty]
    rfl
  entries := fun c hc => by
    rw [hempty] at hc
    exact absurd hc List.not_mem_nil
  nodup := by
    rw [hempty]
    exact List.nodup_nil

variable (h : Represents m₀ dir m cat)
include h

theorem heard (events : List Event) : Represents m₀ dir (m.heard events) cat :=
  ⟨h.cwd, h.elsewhere, h.files, h.entries, h.nodup⟩

/-- **Writing a file is assigning to its key.** -/
theorem insert (k : Key) (v : Variable) :
    Represents m₀ dir (m.holding (m.files.insert (dir ++ [k.entry]) (.file v.toBytes))) (cat.insert k v) where
  cwd := h.cwd
  elsewhere := fun loc hloc => by
    rw [Machine.files_holding, FileSystem.lookup_insert (List.concat_ne_nil _ dir), if_neg (hloc _)]
    exact h.elsewhere loc hloc
  files := fun k' => by
    rw [Machine.files_holding, FileSystem.lookup_insert (List.concat_ne_nil _ dir)]
    by_cases hk : k' = k
    · rw [hk, if_pos rfl, Finmap.lookup_insert]
      rfl
    · rw [if_neg fun heq => hk (Key.entry_injective (entry_inj.1 heq)), Finmap.lookup_insert_of_ne _ hk]
      exact h.files k'
  entries := fun c hc => by
    obtain ⟨node, hnode⟩ := FileSystem.mem_children_iff.1 hc
    rw [Machine.files_holding, FileSystem.lookup_insert (List.concat_ne_nil _ dir)] at hnode
    by_cases hloc : dir ++ [c] = dir ++ [k.entry]
    · exact ⟨k, entry_inj.1 hloc⟩
    · rw [if_neg hloc] at hnode
      exact h.entries c (FileSystem.mem_children_iff.2 ⟨node, hnode⟩)
  nodup := FileSystem.nodup_children_insert _ h.nodup

/-- **Clearing an entry is erasing its key.** -/
theorem erase (k : Key) :
    Represents m₀ dir (m.holding (m.files.erase (dir ++ [k.entry]))) (cat.erase k) where
  cwd := h.cwd
  elsewhere := fun loc hloc => by
    rw [Machine.files_holding, FileSystem.lookup_erase (List.concat_ne_nil _ dir), if_neg (hloc _)]
    exact h.elsewhere loc hloc
  files := fun k' => by
    rw [Machine.files_holding, FileSystem.lookup_erase (List.concat_ne_nil _ dir)]
    by_cases hk : k' = k
    · rw [hk, if_pos rfl, Finmap.lookup_erase]
      rfl
    · rw [if_neg fun heq => hk (Key.entry_injective (entry_inj.1 heq)), Finmap.lookup_erase_ne hk]
      exact h.files k'
  entries := fun c hc => by
    obtain ⟨node, hnode⟩ := FileSystem.mem_children_iff.1 hc
    rw [Machine.files_holding, FileSystem.lookup_erase (List.concat_ne_nil _ dir)] at hnode
    by_cases hloc : dir ++ [c] = dir ++ [k.entry]
    · rw [if_pos hloc] at hnode
      cases hnode
    · rw [if_neg hloc] at hnode
      exact h.entries c (FileSystem.mem_children_iff.2 ⟨node, hnode⟩)
  nodup := FileSystem.nodup_children_erase h.nodup

/-- **A path that leads to the directory leads there still.** -/
theorem leadsTo (hempty : m₀.files.children dir = []) {p : Path} (hp : LeadsTo m₀.files m₀.cwd p dir) :
    LeadsTo m.files m.cwd p dir := by
  rw [h.cwd]
  refine hp.mono fun loc node hnode _ => ?_
  rw [h.elsewhere loc]
  · exact hnode
  · -- nothing that was there before is an entry of the directory
    rintro c rfl
    rw [FileSystem.lookup_of_children_eq_nil hempty] at hnode
    cases hnode

/-! ## Listing -/

/-- The entries are those of the keys, in some order. -/
theorem exists_keys : ∃ ks : List Key, m.files.children dir = ks.map Key.entry ∧
    ks.Perm (cat.keys.sort Key.Before) := by
  have hrange : m.files.children dir ∈ Set.range (List.map Key.entry) := by
    rw [Set.range_list_map]
    intro c hc
    obtain ⟨k, rfl⟩ := h.entries c hc
    exact ⟨k, rfl⟩
  obtain ⟨ks, hks⟩ := hrange
  have hnodup : ks.Nodup := List.Nodup.of_map Key.entry (hks ▸ h.nodup)
  refine ⟨ks, hks.symm, (List.perm_ext_iff_of_nodup hnodup (Finset.sort_nodup _ _)).2 fun k => ?_⟩
  -- a key is there exactly when its entry is, and different keys have different entries
  have hmem : k ∈ ks ↔ k.entry ∈ m.files.children dir := by
    rw [← hks]
    exact (List.mem_map_of_injective fun _ _ => Key.entry_injective).symm
  rw [hmem, FileSystem.mem_children_iff, h.files, Finset.mem_sort, Finmap.mem_keys, Finmap.mem_iff]
  cases cat.lookup k with
  | none => exact ⟨fun ⟨_, hn⟩ => (by cases hn), fun ⟨_, hn⟩ => (by cases hn)⟩
  | some v => exact ⟨fun _ => ⟨v, rfl⟩, fun _ => ⟨_, rfl⟩⟩

theorem run_list {s : Store} (hs : LeadsTo m.files m.cwd s.root dir) :
    m.run s.list.run = (.ok cat.names, m.heard [.listedStore s.root cat.names.length]) := by
  obtain ⟨ks, hks, hperm⟩ := h.exists_keys
  have hraws : m.files.list m.cwd s.root = .ok ((ks.map fun k => k.1.spell).map Utf8.encode) := by
    rw [hs.list_eq, hks, List.map_map]
    rfl
  have hsort : EntryName.sort (ks.map fun k => k.1.spell) = (cat.keys.sort Key.Before).map fun k => k.1.spell := by
    have hsorted : (cat.keys.sort Key.Before).Pairwise Key.Before := Finset.pairwise_sort _ _
    exact EntryName.sort_unique (hperm.symm.map _) (List.pairwise_map.2 hsorted)
  refine Store.run_list_ok hraws ?_
  rw [hsort, Catalogue.names, List.map_map, List.map_map]
  exact List.map_congr_left fun k _ => EntryName.decode_spell k.2.1

/-! ## Single variables -/

variable {s : Store} (hs : LeadsTo m.files m.cwd s.root dir) {i : Identity} (hf : Addressable i → s.Fits i)
include hs hf

theorem run_read : (m.run (s.read i).run).1 = (cat.find s i).map Variable.toBytes ∧
    Represents m₀ dir (m.run (s.read i).run).2 cat := by
  by_cases ha : Addressable i
  · rw [Store.run_read hs ha (hf ha) (h.files ⟨i, ha⟩), Catalogue.find, dif_pos ha]
    cases cat.lookup ⟨i, ha⟩ with
    | none => exact ⟨rfl, h⟩
    | some v => exact ⟨rfl, h.heard _⟩
  · rw [run_read_refused ha, Catalogue.find, dif_neg ha]
    exact ⟨rfl, h⟩

theorem run_readVariable : (m.run (s.readVariable i).run).1 = cat.find s i ∧
    Represents m₀ dir (m.run (s.readVariable i).run).2 cat := by
  by_cases ha : Addressable i
  · rw [Store.run_readVariable hs ha (hf ha) (h.files ⟨i, ha⟩), Catalogue.find, dif_pos ha]
    cases cat.lookup ⟨i, ha⟩ with
    | none => exact ⟨rfl, h⟩
    | some v =>
      rw [Option.map_some, Option.elim_some, Variable.ofBytes?_toBytes]
      exact ⟨rfl, h.heard _⟩
  · rw [run_readVariable_refused ha, Catalogue.find, dif_neg ha]
    exact ⟨rfl, h⟩

theorem run_delete : (m.run (s.delete i).run).1 = (cat.remove i).1 ∧
    Represents m₀ dir (m.run (s.delete i).run).2 (cat.remove i).2 := by
  by_cases ha : Addressable i
  · rw [Store.run_delete hs ha (hf ha) (h.files ⟨i, ha⟩), Catalogue.remove, dif_pos ha]
    cases hv : cat.lookup ⟨i, ha⟩ with
    | none =>
      rw [if_neg (Finmap.lookup_eq_none.1 hv)]
      exact ⟨rfl, h.heard _⟩
    | some v =>
      rw [if_pos (Finmap.mem_of_lookup_eq_some hv)]
      exact ⟨rfl, (h.erase ⟨i, ha⟩).heard _⟩
  · rw [run_delete_refused ha, Catalogue.remove, dif_neg ha]
    exact ⟨rfl, h⟩

theorem run_write_some (payload : Bytes) (attributes : Option Attributes) :
    let v : Variable := ⟨attributes.getD s.config.attributes, payload⟩
    (m.run (s.write i (some payload) attributes).run).1 = (cat.assign i v).1 ∧
      Represents m₀ dir (m.run (s.write i (some payload) attributes).run).2 (cat.assign i v).2 := by
  intro v
  by_cases ha : Addressable i
  · rw [Store.run_write_some ha, run_replace hs ha (hf ha) (h.files ⟨i, ha⟩), Catalogue.assign, dif_pos ha,
      Variable.length_toBytes]
    exact ⟨rfl, (h.insert ⟨i, ha⟩ v).heard _⟩
  · rw [run_write_refused ha, Catalogue.assign, dif_neg ha]
    exact ⟨rfl, h⟩

end Represents

/-! ## Sessions -/

/-- The host can serve the call on the directory: the root of the store leads there, and a file of the variable that
the call is about has names that are no longer than the host allows. -/
structure Serves (m₀ : Machine) (dir : Location) (s : Store) (call : Call) : Prop where
  root : LeadsTo m₀.files m₀.cwd s.root dir
  fits : ∀ i, call.identity? = some i → Addressable i → s.Fits i

section Session

variable {m₀ : Machine} {dir : Location} (hempty : m₀.files.children dir = [])
include hempty

/-- **Every call gives what the catalogue says, and leaves a directory that the catalogue after it describes.** -/
theorem carryOut_represents {m : Machine} {cat : Catalogue} (h : Represents m₀ dir m cat) {s : Store} {call : Call}
    (hserves : Serves m₀ dir s call) : (call.carryOut s m).1 = (cat.answer s call).1 ∧
      Represents m₀ dir (call.carryOut s m).2 (cat.answer s call).2 := by
  have hs := h.leadsTo hempty hserves.root
  cases call with
  | write i payload attributes =>
    cases payload with
    | none =>
      obtain ⟨hreply, hrep⟩ := h.run_delete hs (hserves.fits i rfl)
      exact ⟨congrArg Reply.outcome hreply, hrep⟩
    | some payload =>
      obtain ⟨hreply, hrep⟩ := h.run_write_some hs (hserves.fits i rfl) payload attributes
      exact ⟨congrArg Reply.outcome hreply, hrep⟩
  | delete i =>
    obtain ⟨hreply, hrep⟩ := h.run_delete hs (hserves.fits i rfl)
    exact ⟨congrArg Reply.outcome hreply, hrep⟩
  | read i =>
    obtain ⟨hreply, hrep⟩ := h.run_read hs (hserves.fits i rfl)
    exact ⟨congrArg Reply.contents hreply, hrep⟩
  | readVariable i =>
    obtain ⟨hreply, hrep⟩ := h.run_readVariable hs (hserves.fits i rfl)
    exact ⟨congrArg Reply.content hreply, hrep⟩
  | list =>
    rw [Call.carryOut, h.run_list hs]
    exact ⟨rfl, h.heard _⟩

/-- **So do sessions of any length.** -/
theorem session_represents : ∀ {calls : List (Store × Call)} {m : Machine} {cat : Catalogue},
    Represents m₀ dir m cat → (∀ p ∈ calls, Serves m₀ dir p.1 p.2) →
      (session m calls).1 = (cat.session calls).1 ∧
        Represents m₀ dir (session m calls).2 (cat.session calls).2
  | [], _, _, h, _ => ⟨rfl, h⟩
  | (s, call) :: rest, m, cat, h, hserves => by
    obtain ⟨hreply, hrep⟩ := carryOut_represents hempty h (hserves (s, call) List.mem_cons_self)
    obtain ⟨hreplies, hrest⟩ := session_represents hrep fun p hp => hserves p (List.mem_cons_of_mem _ hp)
    exact ⟨congrArg₂ List.cons hreply hreplies, hrest⟩

end Session

/-- **A session on an empty directory gives what a finite map gives**, through any stores over that directory. -/
theorem session_refines_catalogue (m : Machine) (dir : Location) (hempty : m.files.children dir = [])
    (calls : List (Store × Call)) (hserves : ∀ p ∈ calls, Serves m dir p.1 p.2) :
    (session m calls).1 = (Catalogue.session ∅ calls).1 :=
  (session_represents hempty (.empty hempty) hserves).1

/-- Two stores over one directory, by different paths and with different attribute words. -/
theorem session_refines_two_stores :
    let m : Machine := ⟨⟨[([[0x64]], .directory)]⟩, [], [], []⟩
    let s : Store := .atRoot ⟨[0x64]⟩
    let s' : Store := ⟨⟨⟨[0x2F, 0x64, 0x2F]⟩, 1⟩⟩
    let i : Identity := ⟨['B'], ⟨0, 0, 0, 0⟩⟩
    let calls : List (Store × Call) := [(s, .write i (some [1, 2]) none), (s', .write i (some [3]) none), (s, .list),
      (s, .readVariable i), (s', .delete i), (s, .read i)]
    m.files.children [[0x64]] = [] ∧ (∀ p ∈ calls, Serves m [[0x64]] p.1 p.2) ∧
      (session m calls).1 = [.outcome (.ok (.written 6)), .outcome (.ok (.written 5)), .names (.ok [i]),
        .content (.ok ⟨⟨1⟩, [3]⟩), .outcome (.ok .deleted), .contents (.error (.notFound (s.variablePath i)))] := by
  intro m s s' i calls
  have hs : LeadsTo m.files m.cwd s.root [[0x64]] := ⟨rfl, rfl⟩
  have hs' : LeadsTo m.files m.cwd s'.root [[0x64]] := ⟨rfl, rfl⟩
  have hf : s.Fits i := ⟨by decide +kernel, by decide +kernel⟩
  have hf' : s'.Fits i := ⟨by decide +kernel, by decide +kernel⟩
  have hserves : ∀ p ∈ calls, Serves m [[0x64]] p.1 p.2 := by
    intro p hp
    simp only [calls, List.mem_cons, List.not_mem_nil, or_false] at hp
    rcases hp with rfl | rfl | rfl | rfl | rfl | rfl
    · exact ⟨hs, fun j hj _ => Option.some.inj hj ▸ hf⟩
    · exact ⟨hs', fun j hj _ => Option.some.inj hj ▸ hf'⟩
    · exact ⟨hs, fun j hj => by cases hj⟩
    · exact ⟨hs, fun j hj _ => Option.some.inj hj ▸ hf⟩
    · exact ⟨hs', fun j hj _ => Option.some.inj hj ▸ hf'⟩
    · exact ⟨hs, fun j hj _ => Option.some.inj hj ▸ hf⟩
  refine ⟨rfl, hserves, (session_refines_catalogue m _ rfl calls hserves).trans ?_⟩
  decide +kernel

end Store
end FirmwareVars
