import FirmwareVars.Proofs.Host.Faults
/-!
# Hosts stay rooted

A path leads to locations below directories only (`Leads.parent`), so what is made where a path leads to is below a
directory again; and what is removed is either no directory or goes with all that is below it.  Every request keeps the
files of a host `Rooted`, whether it is carried out or refused (`Answers.rooted`), and so does every run
(`Runs.rooted`).
-/
namespace FirmwareVars
namespace FileSystem

variable {fs files : FileSystem} {loc : Location}

theorem rooted_iff : fs.Rooted ↔ ∀ loc node, fs.lookup loc = some node → fs.lookup loc.dropLast = some .directory := by
  refine ⟨fun h loc node hnode => h.parent hnode, fun h entry hmem => ?_⟩
  by_cases hne : entry.1 = []
  · rw [hne]
    rfl
  · obtain ⟨node, hnode⟩ := (mem_locations_iff hne).1 (List.mem_map_of_mem hmem)
    exact h entry.1 node hnode

theorem rooted_empty : empty.Rooted := fun _ hmem => absurd hmem List.not_mem_nil

/-! ## Where paths lead -/

theorem Advances.parent (hr : fs.Rooted) {follow : Bool} {d : Location} {cs : List Bytes}
    (h : Advances fs follow loc cs (.found d)) (hloc : fs.lookup loc.dropLast = some .directory) :
    fs.lookup d.dropLast = some .directory := by
  generalize hs : Stop.found d = stop at h
  induction h with
  | done loc =>
    cases hs
    exact hloc
  | here hdir h ih => exact ih hloc hs
  | up hdir h ih => exact ih (hr.parent (hr.parent hdir)) hs
  | entry hdir hc hnode hlink h ih => exact ih (by rwa [List.dropLast_concat]) hs
  | link hdir hc hnode hrest => cases hs
  | last hdir hc hnode hfollow =>
    cases hs
    rwa [List.dropLast_concat]
  | free hdir hc hnode =>
    cases hs
    rwa [List.dropLast_concat]

theorem Leads.parent (hr : fs.Rooted) {last : Bool} {budget : Nat} {d : Location} {cs : List Bytes}
    (h : Leads fs last budget loc cs d) (hloc : fs.lookup loc.dropLast = some .directory) :
    fs.lookup d.dropLast = some .directory := by
  induction h with
  | found h => exact h.parent hr hloc
  | link h hrest ih => exact ih (hr.parent (lookup_base h.link_directory _))

/-- **What a path leads to lies in a directory**, whether it is taken or free. -/
theorem parent_of_locate (hr : fs.Rooted) {cwd : Location} {last : Bool} {p : Path}
    (h : fs.locate cwd last p = .ok loc) : fs.lookup loc.dropLast = some .directory := by
  obtain ⟨hfault, hlead⟩ := locate_eq_ok_iff.1 h
  have hbytes : p.bytes ≠ [] := (pathFault?_eq_none_iff.1 hfault).2.1
  exact hlead.parent hr (hr.parent (hlead.directory_of_ne_nil (Path.components_ne_nil hbytes)))

/-! ## Operations -/

namespace Rooted

variable (hr : fs.Rooted)
include hr

theorem insert {node : Node} (hne : loc ≠ []) (hparent : fs.lookup loc.dropLast = some .directory)
    (hkeep : fs.lookup loc = some .directory → node = .directory) : (fs.insert loc node).Rooted := by
  refine rooted_iff.2 fun loc' node' hnode' => ?_
  have hparent' : fs.lookup loc'.dropLast = some .directory := by
    by_cases heq : loc' = loc
    · rwa [heq]
    · rw [lookup_insert hne, if_neg heq] at hnode'
      exact hr.parent hnode'
  rw [lookup_insert hne]
  -- what lies below the location did so before, so a directory was there and still is
  by_cases hpar : loc'.dropLast = loc
  · rw [if_pos hpar, hkeep (hpar ▸ hparent')]
  · rwa [if_neg hpar]

theorem erase (hloc : fs.lookup loc ≠ some .directory) : (fs.erase loc).Rooted := by
  have hne := ne_nil_of_not_directory hloc
  refine rooted_iff.2 fun loc' node hnode => ?_
  rw [lookup_erase hne] at hnode ⊢
  split at hnode
  · cases hnode
  · have hparent := hr.parent hnode
    have hpar : loc'.dropLast ≠ loc := by
      rintro rfl
      exact hloc hparent
    rwa [if_neg hpar]

theorem filled (hparent : fs.lookup loc.dropLast = some .directory) (hloc : fs.lookup loc ≠ some .directory)
    (bytes : Bytes) : (fs.filled loc bytes).Rooted := by
  unfold FileSystem.filled
  split
  · exact hr
  · exact hr.insert (ne_nil_of_not_directory hloc) hparent fun hdir => absurd hdir hloc

theorem openEmptied {cwd : Location} {p : Path} (h : fs.openEmptied cwd p = .ok (loc, files)) : files.Rooted := by
  obtain ⟨hlocated, hloc, rfl⟩ := openEmptied_eq_ok_iff.1 h
  exact hr.filled (parent_of_locate hr hlocated) hloc []

theorem write {bytes : Bytes} (h : fs.write loc bytes = .ok files) : files.Rooted := by
  unfold FileSystem.write at h
  split at h
  next old hold =>
    cases h
    have hloc : fs.lookup loc ≠ some .directory := by simp [hold]
    exact hr.insert (ne_nil_of_not_directory hloc) (hr.parent hold) fun hdir => absurd hdir hloc
  next =>
    split at h
    · cases h
      exact hr
    · cases h
  next =>
    cases h
    exact hr

theorem remove {cwd : Location} {p : Path} (h : fs.remove cwd p = .ok files) : files.Rooted := by
  obtain ⟨loc, node, -, hnode, hdir, rfl⟩ := remove_eq_ok_iff.1 h
  exact hr.erase fun heq => hdir (Option.some.inj (hnode.symm.trans heq))

theorem removeBelow (loc : Location) :
    (FileSystem.mk (fs.nodes.filter fun entry => !loc.isPrefixOf entry.1)).Rooted := by
  refine rooted_iff.2 fun loc' node hnode => ?_
  by_cases hpar : loc'.dropLast = []
  · rw [hpar]
    rfl
  · have hne : loc' ≠ [] := by
      rintro rfl
      exact hpar rfl
    rw [lookup_filter (fun loc' => !loc.isPrefixOf loc') hne] at hnode
    rw [lookup_filter (fun loc' => !loc.isPrefixOf loc') hpar]
    split at hnode
    next hkept =>
      -- a location that is below `loc` by its parent is below `loc` itself
      have hkept' : (!loc.isPrefixOf loc'.dropLast) = true := by
        simp only [Bool.not_eq_true', Bool.eq_false_iff, ne_eq, List.isPrefixOf_iff_prefix] at hkept ⊢
        exact fun hpre => hkept (hpre.trans (List.dropLast_prefix loc'))
      rw [if_pos hkept']
      exact hr.parent hnode
    next => cases hnode

theorem removeTree {cwd : Location} {p : Path} (h : fs.removeTree cwd p = .ok files) : files.Rooted := by
  unfold FileSystem.removeTree at h
  split at h
  · cases h
  next loc hlocated =>
    split at h
    · cases h
      exact hr.removeBelow loc
    next target hlink =>
      cases h
      exact hr.erase (by simp [hlink])
    · cases h
    · cases h

omit hr in
theorem makeAlong : ∀ {fs : FileSystem} {cs : List Bytes} {loc : Location}, fs.Rooted →
    fs.makeAlong loc cs = .ok files → files.Rooted
  | fs, [], loc, hr, h => by
    cases h
    exact hr
  | fs, c :: rest, loc, hr, h => by
    unfold FileSystem.makeAlong at h
    split at h
    · cases h
    next next hnext =>
      split at h
      · exact makeAlong hr h
      · cases h
      next hfree =>
        have hlead := follow_eq_ok_iff.1 hnext
        have hparent := hlead.parent hr (hr.parent (hlead.directory_of_ne_nil (List.cons_ne_nil _ _)))
        have hne : next ≠ [] := by
          rintro rfl
          cases hfree
        exact makeAlong (hr.insert hne hparent fun _ => rfl) h

theorem makeDirectories {cwd : Location} {p : Path} (h : fs.makeDirectories cwd p = .ok files) : files.Rooted := by
  unfold FileSystem.makeDirectories at h
  split at h
  · cases h
  · exact makeAlong hr h

end Rooted
end FileSystem

namespace Machine

variable {α β : Type} {m m' : Machine}

theorem rooted_of_settle {outcome : Except Failure FileSystem} {x : Except Failure Unit}
    (h : ∀ files, outcome = .ok files → files.Rooted) (hr : m.files.Rooted) (hm : m.settle outcome = (x, m')) :
    m'.files.Rooted := by
  cases outcome with
  | ok files =>
    cases hm
    exact h files rfl
  | error failure =>
    cases hm
    exact hr

theorem answer_rooted {r : Request Location β} {x : β} (hr : m.files.Rooted) (h : m.answer r = (x, m')) :
    m'.files.Rooted := by
  cases r with
  | readFile p =>
    cases h
    exact hr
  | readDirectory p =>
    cases h
    exact hr
  | openEmptied p =>
    rcases answers_openEmptied.1 (.inl h) with ⟨loc, files, hopen, -, rfl⟩ | ⟨-, rfl⟩
    · exact hr.openEmptied hopen
    · exact hr
  | writeAll loc bytes => exact rooted_of_settle (fun _ => hr.write) hr h
  | removeFile p => exact rooted_of_settle (fun _ => hr.remove) hr h
  | createDirectories p => exact rooted_of_settle (fun _ => hr.makeDirectories) hr h
  | removeTree p => exact rooted_of_settle (fun _ => hr.removeTree) hr h
  | print bytes =>
    cases h
    exact hr
  | flush =>
    cases h
    exact hr
  | tell event =>
    cases h
    exact hr

/-- **Every request keeps the files rooted**, whether it is carried out or refused. -/
theorem Answers.rooted {r : Request Location β} {x : β} (h : m.Answers r x m') (hr : m.files.Rooted) :
    m'.files.Rooted := by
  rcases h with h | h
  · exact answer_rooted hr h
  · -- of the requests that are refused only a write leaves anything behind
    cases r with
    | readFile p => exact h.2 ▸ hr
    | readDirectory p => exact h.2 ▸ hr
    | openEmptied p => exact h.2 ▸ hr
    | removeFile p => exact h.2 ▸ hr
    | writeAll loc bytes =>
      obtain ⟨-, k, files, hwrite, rfl⟩ := h
      exact hr.write hwrite
    | createDirectories p => exact h.elim
    | removeTree p => exact h.elim
    | print bytes => exact h.elim
    | flush => exact h.elim
    | tell event => exact h.elim

/-- **Every run keeps the files rooted.** -/
theorem Runs.rooted {s : Script Location α} {a : α} (h : Runs m s a m') (hr : m.files.Rooted) : m'.files.Rooted := by
  induction h with
  | done m a => exact hr
  | ask hx h ih => exact ih (hx.rooted hr)

theorem run_rooted (s : Script Location α) (hr : m.files.Rooted) : (m.run s).2.files.Rooted :=
  (runs_run s m).rooted hr

end Machine
end FirmwareVars
