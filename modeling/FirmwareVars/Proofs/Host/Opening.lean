import FirmwareVars.Proofs.Host.Entry
/-!
# Opening, filling and reading back

Opening a file empties it and writing fills it again; `filled` is what both come to.  A file is opened where its path
leads to (`openEmptied_eq_ok_iff`), so its path leads there afterwards, and what was written is read back
(`read_filled`).
-/
namespace FirmwareVars
namespace FileSystem

variable {fs : FileSystem} {cwd dir : Location} {p : Path}

/-- **What is written to a file just emptied is all that it holds.** -/
theorem write_emptied (fs : FileSystem) {loc : Location} (h : loc ≠ []) (bytes : Bytes) :
    (fs.insert loc (.file [])).write loc bytes = .ok (fs.insert loc (.file bytes)) := by
  rw [write, lookup_insert h, if_pos rfl]
  simp only [insert_insert, overwrite, List.drop_nil, List.append_nil]

/-- The files after the file at a location was emptied and bytes were written to it.  A device keeps none of them. -/
def filled (fs : FileSystem) (loc : Location) (bytes : Bytes) : FileSystem :=
  match fs.lookup loc with
  | some (.device _) => fs
  | _ => fs.insert loc (.file bytes)

section Filled

variable {loc : Location} (hloc : fs.lookup loc ≠ some .directory)

include hloc in
theorem ne_nil_of_not_directory : loc ≠ [] := by
  rintro rfl
  exact hloc rfl

theorem filled_of_device {kind : Device} (h : fs.lookup loc = some (.device kind)) (bytes : Bytes) :
    fs.filled loc bytes = fs := by
  unfold filled
  rw [h]

theorem filled_of_not_device (h : ∀ kind, fs.lookup loc ≠ some (.device kind)) (bytes : Bytes) :
    fs.filled loc bytes = fs.insert loc (.file bytes) := by
  unfold filled
  split
  next kind hkind => exact absurd hkind (h kind)
  next => rfl

theorem filled_self {bytes : Bytes} (h : fs.lookup loc = some (.file bytes)) : fs.filled loc bytes = fs := by
  have hloc : fs.lookup loc ≠ some .directory := by simp [h]
  have hne := ne_nil_of_not_directory hloc
  rw [filled_of_not_device (by simp [h]), insert_self hne h]

include hloc in
/-- **Filling a file changes no other location.** -/
theorem lookup_filled {loc' : Location} (h : loc' ≠ loc) (bytes : Bytes) :
    (fs.filled loc bytes).lookup loc' = fs.lookup loc' := by
  unfold filled
  split
  · rfl
  · rw [lookup_insert (ne_nil_of_not_directory hloc), if_neg h]

include hloc in
/-- Only a full device refuses what is written to it. -/
theorem write_filled (bytes : Bytes) : (fs.filled loc []).write loc bytes =
    if fs.lookup loc = some (.device .full) ∧ bytes ≠ [] then .error .noSpace else .ok (fs.filled loc bytes) := by
  by_cases hdev : ∃ kind, fs.lookup loc = some (.device kind)
  · obtain ⟨kind, hkind⟩ := hdev
    rw [filled_of_device hkind, filled_of_device hkind, write, hkind]
    cases kind with
    | null => simp
    | full => by_cases hb : bytes = [] <;> simp [hb]
  · have hnot (kind : Device) : fs.lookup loc ≠ some (.device kind) := fun hkind => hdev ⟨kind, hkind⟩
    rw [filled_of_not_device hnot, filled_of_not_device hnot, if_neg fun h => hnot _ h.1,
      write_emptied fs (ne_nil_of_not_directory hloc)]

include hloc in
theorem write_filled_eq_ok_iff {bytes : Bytes} {files : FileSystem} : (fs.filled loc []).write loc bytes = .ok files ↔
    (fs.lookup loc ≠ some (.device .full) ∨ bytes = []) ∧ files = fs.filled loc bytes := by
  rw [write_filled hloc, Classical.or_iff_not_imp_left, Classical.not_not]
  split
  next hfull =>
    constructor
    · intro h
      cases h
    · exact fun h => absurd (h.1 hfull.1) hfull.2
  next hroom =>
    rw [not_and, Classical.not_not] at hroom
    exact ⟨fun h => ⟨hroom, (Except.ok.inj h).symm⟩, fun h => congrArg Except.ok h.2.symm⟩

end Filled

section Opened

variable {loc : Location} {files : FileSystem}

/-- A separator at the end asks for a directory, where nothing is placed and nothing else is found. -/
theorem place_segments_iff (hloc : fs.lookup loc ≠ some .directory) :
    fs.place linkLimit (base cwd p) (Path.segments p.bytes) p.endsOpen = .ok loc ↔
      Leads fs true linkLimit (base cwd p) p.components loc := by
  cases ho : p.endsOpen with
  | true =>
    rw [Path.components, if_pos ho]
    constructor
    · intro h
      unfold place at h
      split at h <;> cases h
    · exact fun h => absurd h.of_here.1 hloc
  | false =>
    rw [Path.components, ho, if_neg Bool.false_ne_true]
    exact place_eq_ok_iff hloc

theorem openEmptied_of_place (hfault : pathFault? p = none)
    (hplace : fs.place linkLimit (base cwd p) (Path.segments p.bytes) p.endsOpen = .ok loc) :
    fs.openEmptied cwd p =
      if fs.lookup loc = some .directory then .error .isDirectory else .ok (loc, fs.filled loc []) := by
  unfold openEmptied filled
  rw [hfault]
  simp only [hplace]
  cases fs.lookup loc with
  | none => rfl
  | some node => cases node <;> simp

/-- **A file is opened where its path leads to**, and is emptied there, unless it is a directory. -/
theorem openEmptied_eq_ok_iff : fs.openEmptied cwd p = .ok (loc, files) ↔
    fs.locate cwd true p = .ok loc ∧ fs.lookup loc ≠ some .directory ∧ files = fs.filled loc [] := by
  rw [locate_eq_ok_iff]
  constructor
  · intro h
    cases hfault : pathFault? p with
    | some failure =>
      rw [openEmptied, hfault] at h
      cases h
    | none =>
      cases hplace : fs.place linkLimit (base cwd p) (Path.segments p.bytes) p.endsOpen with
      | error failure =>
        rw [openEmptied, hfault] at h
        simp only [hplace] at h
        cases h
      | ok d =>
        rw [openEmptied_of_place hfault hplace] at h
        split at h
        next => cases h
        next hd =>
          cases h
          exact ⟨⟨rfl, (place_segments_iff hd).1 hplace⟩, hd, rfl⟩
  · rintro ⟨⟨hfault, hlead⟩, hloc, rfl⟩
    rw [openEmptied_of_place hfault ((place_segments_iff hloc).2 hlead), if_neg hloc]

end Opened

/-! ## Reading back -/

section Back

variable (hr : fs.Rooted) {c : Bytes} (hc : IsSingle c) {loc : Location}
  (h : fs.locate cwd true (p.join ⟨c⟩) = .ok loc) (hloc : fs.lookup loc ≠ some .directory)
include hr hc h hloc

/-- **The path leads to the file still when it is filled.** -/
theorem locate_filled (bytes : Bytes) : (fs.filled loc bytes).locate cwd true (p.join ⟨c⟩) = .ok loc := by
  by_cases hdev : ∃ kind, fs.lookup loc = some (.device kind)
  · obtain ⟨kind, hkind⟩ := hdev
    rwa [filled_of_device hkind]
  · have hnot (kind : Device) : fs.lookup loc ≠ some (.device kind) := fun hkind => hdev ⟨kind, hkind⟩
    obtain ⟨hpath, hlead⟩ := (locate_join_iff hc).1 h
    have hstart := hlead.directory_of_ne_nil (List.concat_ne_nil c _)
    have hfile : ∀ node, fs.lookup loc = some node → ∃ bytes, node = .file bytes := by
      intro node hnode
      cases node with
      | file bytes => exact ⟨bytes, rfl⟩
      | directory => exact absurd hnode hloc
      | link target => exact absurd hnode (hlead.not_link hr hstart target)
      | device kind => exact absurd hnode (hnot kind)
    have hne := ne_nil_of_not_directory hloc
    rw [filled_of_not_device hnot]
    refine (locate_join_iff hc).2 ⟨hpath, hlead.mono (keepsWays_insert hne hfile _) (.inr ⟨bytes, ?_⟩)⟩
    rw [lookup_insert hne, if_pos rfl]

/-- **What a file was filled with is read back.** -/
theorem read_filled (hdev : ∀ kind, fs.lookup loc ≠ some (.device kind)) (bytes : Bytes) :
    (fs.filled loc bytes).read cwd (p.join ⟨c⟩) = .ok bytes := by
  have hlook : (fs.filled loc bytes).lookup loc = some (.file bytes) := by
    rw [filled_of_not_device hdev, lookup_insert (ne_nil_of_not_directory hloc), if_pos rfl]
  rw [read, nodeAt, locate_filled hr hc h hloc]
  simp only [hlook]
  rfl

theorem read_filled_of_device {kind : Device} (hdev : fs.lookup loc = some (.device kind)) (bytes : Bytes) :
    (fs.filled loc bytes).read cwd (p.join ⟨c⟩) = .ok [] := by
  have hlocate := locate_filled hr hc h hloc bytes
  rw [filled_of_device hdev] at hlocate ⊢
  rw [read, nodeAt, hlocate]
  simp only [hdev]
  rfl

end Back

end FileSystem
end FirmwareVars
