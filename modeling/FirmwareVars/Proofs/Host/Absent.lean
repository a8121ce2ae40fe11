import FirmwareVars.Proofs.Host.Entry
/-!
# What is not there

When nothing stands at the end of a path the host says so, and says the same of every path that goes on from there
(`nodeAt_join_of_absent`).  A path that goes on from one that cannot be followed cannot be followed either, for the same
reason (`follow_append_of_error`).
-/
namespace FirmwareVars
namespace FileSystem

variable {fs : FileSystem} {follow last : Bool} {x : List Bytes} {failure : Failure}

/-! ## Going on from where there is no way -/

theorem advance_append_of_error (hx : x ≠ []) : ∀ {cs : List Bytes} {loc : Location},
    advance fs true loc cs = .error failure → advance fs follow loc (cs ++ x) = .error failure
  | [], loc, h => by cases h
  | c :: rest, loc, h => by
    rw [List.cons_append]
    by_cases hdir : fs.lookup loc = some .directory
    · by_cases hhere : c = Path.here
      · rw [hhere, advance_here hdir] at h ⊢
        exact advance_append_of_error hx h
      by_cases hup : c = Path.up
      · rw [hup, advance_up hdir] at h ⊢
        exact advance_append_of_error hx h
      by_cases hlong : nameLimit < c.length
      · rwa [advance_nameTooLong hdir hlong] at h ⊢
      have hc : IsName c := ⟨hhere, hup, Nat.le_of_not_lt hlong⟩
      rw [advance_name hdir hc] at h ⊢
      split at h
      next target hnode => simp at h
      next node hlink hnode => exact advance_append_of_error hx h
      next hnode =>
        rw [if_neg fun hnil => hx (List.append_eq_nil_iff.1 hnil).2]
        split at h
        next => cases h
        next => exact h
    · rwa [advance_notDirectory hdir] at h ⊢

theorem follow_append_of_error (hx : x ≠ []) : ∀ {budget : Nat} {loc : Location} {cs : List Bytes},
    fs.follow true budget loc cs = .error failure → fs.follow last budget loc (cs ++ x) = .error failure
  | budget, loc, cs, h => by
    unfold FileSystem.follow at h ⊢
    split at h
    next hadvance =>
      rw [advance_append_of_error hx hadvance]
      exact h
    next => cases h
    next hlink =>
      rw [((advances_of_advance hlink).append_link hx).advance_eq]
      cases budget with
      | zero => exact h
      | succ budget =>
        simp only
        rw [← List.append_assoc]
        exact follow_append_of_error hx h

/-- Nothing goes on from a free location. -/
theorem Advances.append_free (hr : fs.Rooted) (hx : x ≠ []) {loc d : Location} {cs : List Bytes}
    (h : Advances fs true loc cs (.found d)) (hloc : fs.lookup loc = some .directory) (hd : fs.lookup d = none) :
    advance fs follow loc (cs ++ x) = .error .noEntry := by
  generalize hs : Stop.found d = stop at h
  induction h with
  | done loc =>
    cases hs
    rw [hloc] at hd
    cases hd
  | here hdir h ih =>
    rw [List.cons_append, advance_here hdir]
    exact ih hloc hs
  | up hdir h ih =>
    rw [List.cons_append, advance_up hdir]
    exact ih (hr.parent hdir) hs
  | @entry loc c rest stop node hdir hc hnode hlink h ih =>
    have hnext : fs.lookup (loc ++ [c]) = some .directory := by
      cases rest with
      | nil =>
        cases h
        cases hs
        rw [hnode] at hd
        cases hd
      | cons => exact h.directory_of_cons
    rw [List.cons_append, advance_name hdir hc, hnext]
    exact ih hnext hs
  | link hdir hc hnode hrest => cases hs
  | last hdir hc hnode hfollow => cases hfollow
  | free hdir hc hnode =>
    rw [List.cons_append, advance_name hdir hc, hnode]
    exact if_neg hx

/-- Whatever stands at the end of the components, the host goes on from there. -/
theorem Advances.append_node {loc d : Location} {cs : List Bytes} (h : Advances fs true loc cs (.found d))
    {node : Node} (hd : fs.lookup d = some node) : advance fs follow loc (cs ++ x) = advance fs follow d x := by
  generalize hs : Stop.found d = stop at h
  induction h with
  | done loc =>
    cases hs
    rfl
  | here hdir h ih =>
    rw [List.cons_append, advance_here hdir]
    exact ih hs
  | up hdir h ih =>
    rw [List.cons_append, advance_up hdir]
    exact ih hs
  | @entry loc c rest stop node hdir hc hnode hlink h ih =>
    rw [List.cons_append, advance_name hdir hc, hnode]
    cases node with
    | link target => exact absurd rfl (hlink target)
    | file bytes => exact ih hs
    | directory => exact ih hs
    | device kind => exact ih hs
  | link hdir hc hnode hrest => cases hs
  | last hdir hc hnode hfollow => cases hfollow
  | free hdir hc hnode =>
    cases hs
    rw [hnode] at hd
    cases hd

/-- What stops the host at the end of the components stops it at the end of the links before them. -/
theorem Leads.append_error {budget : Nat} {loc d : Location} {cs : List Bytes} (h : Leads fs true budget loc cs d)
    (hloc : fs.lookup loc = some .directory) (hx : x ≠ []) (hstop : ∀ loc cs, fs.lookup loc = some .directory →
      Advances fs true loc cs (.found d) → advance fs last loc (cs ++ x) = .error failure) :
    fs.follow last budget loc (cs ++ x) = .error failure := by
  induction h with
  | found h =>
    unfold FileSystem.follow
    rw [hstop _ _ hloc h]
  | link h hrest ih =>
    unfold FileSystem.follow
    rw [(h.append_link hx).advance_eq]
    simp only
    rw [← List.append_assoc]
    exact ih (lookup_base h.link_directory _) hstop

/-! ## Absent nodes -/

variable {cwd : Location} {p : Path}

theorem nodeAt_eq_ok_iff {node : Node} : fs.nodeAt cwd p = .ok node ↔
    ∃ loc, fs.locate cwd true p = .ok loc ∧ fs.lookup loc = some node := by
  unfold nodeAt
  cases fs.locate cwd true p with
  | error failure => simp
  | ok loc => cases hn : fs.lookup loc <;> simp [hn]

theorem nodeAt_eq_error_iff : fs.nodeAt cwd p = .error failure ↔ fs.locate cwd true p = .error failure ∨
    ∃ loc, fs.locate cwd true p = .ok loc ∧ fs.lookup loc = none ∧ failure = .noEntry := by
  unfold nodeAt
  cases fs.locate cwd true p with
  | error failure => simp
  | ok loc => cases hn : fs.lookup loc <;> simp [hn, eq_comm]

theorem read_eq_noEntry_iff : fs.read cwd p = .error .noEntry ↔ fs.nodeAt cwd p = .error .noEntry := by
  unfold read
  cases fs.nodeAt cwd p with
  | error failure => simp only [Except.error.injEq]
  | ok node => cases node <;> simp [contentsOf]

theorem list_eq_noEntry_iff : fs.list cwd p = .error .noEntry ↔ fs.nodeAt cwd p = .error .noEntry := by
  unfold list nodeAt
  cases fs.locate cwd true p with
  | error failure => simp only [Except.error.injEq]
  | ok loc =>
    cases hn : fs.lookup loc with
    | none => simp [hn]
    | some node => cases node <;> simp [hn]

section Absent

variable (hp : p.bytes ≠ []) (h : fs.nodeAt cwd p = .error .noEntry)
include hp h

theorem pathFault?_of_absent : pathFault? p = none := by
  cases hfault : pathFault? p with
  | none => rfl
  | some failure =>
    have hlocate : fs.locate cwd true p = .error failure := by
      rw [locate, hfault]
    rw [nodeAt, hlocate] at h
    cases h
    unfold pathFault? pathsFault? at hfault
    split at hfault
    · cases hfault
    · have hlength : lengthFault? p = some .noEntry := by simpa using hfault
      rw [lengthFault?, if_neg hp] at hlength
      split at hlength <;> cases hlength

theorem lookup_base_of_absent : fs.lookup (base cwd p) = some .directory := by
  refine Classical.byContradiction fun hbase => ?_
  obtain ⟨c, cs, hcs⟩ := List.exists_cons_of_ne_nil (Path.components_ne_nil hp)
  have hlocate : fs.locate cwd true p = .error .notDirectory := by
    rw [locate, pathFault?_of_absent hp h, hcs]
    simp only
    unfold FileSystem.follow
    rw [advance_notDirectory hbase]
  rw [nodeAt, hlocate] at h
  cases h

/-- **What is below an absent node is absent.** -/
theorem nodeAt_join_of_absent (hr : fs.Rooted) {c : Bytes} (hc : IsSingle c)
    (hlen : (p.join ⟨c⟩).bytes.length < pathLimit) : fs.nodeAt cwd (p.join ⟨c⟩) = .error .noEntry := by
  have hfault := pathFault?_of_absent hp h
  have hbase := lookup_base_of_absent hp h
  have hzero := (pathFault?_eq_none_iff.1 hfault).1
  have hlocate : fs.locate cwd true p = fs.follow true linkLimit (base cwd p) p.components := by rw [locate, hfault]
  have hjoin : fs.locate cwd true (p.join ⟨c⟩) =
      fs.follow true linkLimit (base cwd p) (Path.segments p.bytes ++ [c]) := by
    rw [locate, (pathFault?_join hc).2 ⟨hzero, hlen⟩, base_join hc, Path.components_join hc.ne_nil hc.separator_notMem]
  refine nodeAt_eq_error_iff.2 (.inl (hjoin.trans ?_))
  cases hsegments : fs.follow true linkLimit (base cwd p) (Path.segments p.bytes) with
  | error failure =>
    have hfailure : fs.locate cwd true p = .error failure := by
      rw [hlocate, Path.components]
      split
      · exact follow_append_of_error (List.cons_ne_nil _ _) hsegments
      · exact hsegments
    rw [nodeAt, hfailure] at h
    cases h
    exact follow_append_of_error (List.cons_ne_nil _ _) hsegments
  | ok d =>
    have hleads := leads_of_follow hsegments
    cases hd : fs.lookup d with
    | none =>
      exact hleads.append_error hbase (List.cons_ne_nil _ _) fun _ _ hloc hadvances =>
        hadvances.append_free hr (List.cons_ne_nil _ _) hloc hd
    | some node =>
      -- the host would have found the node, or something else where a directory had to be
      exfalso
      by_cases ho : p.endsOpen = true
      · rw [Path.components, if_pos ho] at hlocate
        by_cases hdir : node = .directory
        · subst hdir
          have hfound : Leads fs true linkLimit (base cwd p) (Path.segments p.bytes ++ [Path.here]) d :=
            hleads.append hd (List.cons_ne_nil _ _) (.here hd (.done d))
          rw [nodeAt_eq_ok_iff.2 ⟨d, hlocate.trans hfound.follow_eq, hd⟩] at h
          cases h
        · have hother : fs.lookup d ≠ some .directory := fun heq => hdir (Option.some.inj (hd.symm.trans heq))
          have hstopped : fs.follow true linkLimit (base cwd p) (Path.segments p.bytes ++ [Path.here]) =
              .error .notDirectory :=
            hleads.append_error hbase (List.cons_ne_nil _ _) fun _ _ _ hadvances =>
              (hadvances.append_node hd).trans (advance_notDirectory hother _ _)
          rw [nodeAt, hlocate.trans hstopped] at h
          cases h
      · rw [Path.components, if_neg ho] at hlocate
        rw [nodeAt_eq_ok_iff.2 ⟨d, hlocate.trans hsegments, hd⟩] at h
        cases h

end Absent

/-- **An entry of a directory is absent when it is free.** -/
theorem LeadsTo.nodeAt_join_eq_noEntry_iff {dir : Location} (hdir : LeadsTo fs cwd p dir) {c : Bytes} (hc : IsEntry c)
    (hlen : (p.join ⟨c⟩).bytes.length < pathLimit) (hlink : ∀ target, fs.lookup (dir ++ [c]) ≠ some (.link target)) :
    fs.nodeAt cwd (p.join ⟨c⟩) = .error .noEntry ↔ fs.lookup (dir ++ [c]) = none := by
  rw [nodeAt, hdir.locate_join hc hlen hlink]
  cases hn : fs.lookup (dir ++ [c]) <;> simp [hn]

end FileSystem
end FirmwareVars
