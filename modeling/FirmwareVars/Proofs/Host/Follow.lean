import FirmwareVars.Proofs.Host.Files
import FirmwareVars.Proofs.Host.Path
/-!
# Following a path

`Advances` and `Leads` are what `advance` and `follow` do when they come to an end, with one rule for each kind of
step.  Where a path leads stays the same when only files come and go (`Leads.mono`).  A path that leads to a directory
can be gone on from there (`Leads.append`), and any path that leads somewhere takes its last step from a directory
(`Leads.of_concat`).  A file that may have to be made is placed where its path leads (`place_eq_ok_iff`).
-/
namespace FirmwareVars
namespace FileSystem

/-- A component that a directory can have as an entry. -/
structure IsName (c : Bytes) : Prop where
  ne_here : c ≠ Path.here
  ne_up : c ≠ Path.up
  length_le : c.length ≤ nameLimit

/-! ## Up to the first link -/

/-- Components that are gone along up to a stop. -/
inductive Advances (fs : FileSystem) (follow : Bool) : Location → List Bytes → Stop → Prop
  | done (loc : Location) : Advances fs follow loc [] (.found loc)
  | here {loc : Location} {rest : List Bytes} {stop : Stop} (hdir : fs.lookup loc = some .directory)
      (h : Advances fs follow loc rest stop) : Advances fs follow loc (Path.here :: rest) stop
  | up {loc : Location} {rest : List Bytes} {stop : Stop} (hdir : fs.lookup loc = some .directory)
      (h : Advances fs follow loc.dropLast rest stop) : Advances fs follow loc (Path.up :: rest) stop
  | entry {loc : Location} {c : Bytes} {rest : List Bytes} {stop : Stop} {node : Node}
      (hdir : fs.lookup loc = some .directory) (hc : IsName c) (hnode : fs.lookup (loc ++ [c]) = some node)
      (hlink : ∀ target, node ≠ .link target) (h : Advances fs follow (loc ++ [c]) rest stop) :
      Advances fs follow loc (c :: rest) stop
  | link {loc : Location} {c : Bytes} {rest : List Bytes} {target : Path}
      (hdir : fs.lookup loc = some .directory) (hc : IsName c) (hnode : fs.lookup (loc ++ [c]) = some (.link target))
      (hrest : rest ≠ [] ∨ follow = true) : Advances fs follow loc (c :: rest) (.link loc target rest)
  | last {loc : Location} {c : Bytes} {target : Path}
      (hdir : fs.lookup loc = some .directory) (hc : IsName c) (hnode : fs.lookup (loc ++ [c]) = some (.link target))
      (hfollow : follow = false) : Advances fs follow loc [c] (.found (loc ++ [c]))
  | free {loc : Location} {c : Bytes}
      (hdir : fs.lookup loc = some .directory) (hc : IsName c) (hnode : fs.lookup (loc ++ [c]) = none) :
      Advances fs follow loc [c] (.found (loc ++ [c]))

variable {fs : FileSystem} {follow : Bool}

theorem advance_notDirectory {loc : Location} (hdir : fs.lookup loc ≠ some .directory) (c : Bytes) (rest : List Bytes) :
    advance fs follow loc (c :: rest) = .error .notDirectory := by
  rw [advance]
  split
  next hd => exact absurd hd hdir
  next => rfl

theorem advance_here {loc : Location} (hdir : fs.lookup loc = some .directory) (rest : List Bytes) :
    advance fs follow loc (Path.here :: rest) = advance fs follow loc rest := by
  rw [advance, hdir]
  exact if_pos rfl

theorem advance_up {loc : Location} (hdir : fs.lookup loc = some .directory) (rest : List Bytes) :
    advance fs follow loc (Path.up :: rest) = advance fs follow loc.dropLast rest := by
  rw [advance, hdir]
  exact (if_neg (by decide)).trans (if_pos rfl)

theorem advance_nameTooLong {loc : Location} (hdir : fs.lookup loc = some .directory) {c : Bytes}
    (hlong : nameLimit < c.length) (rest : List Bytes) : advance fs follow loc (c :: rest) = .error .nameTooLong := by
  have hhere : c ≠ Path.here := fun h => absurd (h ▸ hlong) (by decide)
  have hup : c ≠ Path.up := fun h => absurd (h ▸ hlong) (by decide)
  rw [advance, hdir]
  exact (if_neg hhere).trans ((if_neg hup).trans (if_pos hlong))

theorem advance_name {loc : Location} (hdir : fs.lookup loc = some .directory) {c : Bytes} (hc : IsName c)
    (rest : List Bytes) : advance fs follow loc (c :: rest) =
      match fs.lookup (loc ++ [c]) with
      | some (.link target) =>
        if rest = [] ∧ !follow then .ok (.found (loc ++ [c])) else .ok (.link loc target rest)
      | some _ => advance fs follow (loc ++ [c]) rest
      | none => if rest = [] then .ok (.found (loc ++ [c])) else .error .noEntry := by
  rw [advance, hdir]
  exact (if_neg hc.ne_here).trans ((if_neg hc.ne_up).trans (if_neg (Nat.not_lt.2 hc.length_le)))

theorem advances_of_advance : ∀ {cs : List Bytes} {loc : Location} {stop : Stop},
    advance fs follow loc cs = .ok stop → Advances fs follow loc cs stop
  | [], loc, stop, h => by
    cases h
    exact .done loc
  | c :: rest, loc, stop, h => by
    by_cases hdir : fs.lookup loc = some .directory
    · by_cases hhere : c = Path.here
      · rw [hhere, advance_here hdir] at h
        exact hhere ▸ .here hdir (advances_of_advance h)
      by_cases hup : c = Path.up
      · rw [hup, advance_up hdir] at h
        exact hup ▸ .up hdir (advances_of_advance h)
      by_cases hlong : nameLimit < c.length
      · rw [advance_nameTooLong hdir hlong] at h
        cases h
      have hc : IsName c := ⟨hhere, hup, Nat.le_of_not_lt hlong⟩
      rw [advance_name hdir hc] at h
      split at h
      next target hnode =>
        by_cases hlast : rest = [] ∧ (!follow) = true
        · rw [if_pos hlast] at h
          cases h
          obtain ⟨rfl, hfollow⟩ := hlast
          exact .last hdir hc hnode (by simpa using hfollow)
        · rw [if_neg hlast] at h
          cases h
          exact .link hdir hc hnode (by rw [Classical.or_iff_not_imp_left]; simpa using hlast)
      next node hlink hnode => exact .entry hdir hc hnode hlink (advances_of_advance h)
      next hnode =>
        by_cases hrest : rest = []
        · rw [if_pos hrest] at h
          cases h
          subst hrest
          exact .free hdir hc hnode
        · rw [if_neg hrest] at h
          cases h
    · rw [advance_notDirectory hdir] at h
      cases h

theorem Advances.advance_eq {loc : Location} {cs : List Bytes} {stop : Stop} (h : Advances fs follow loc cs stop) :
    advance fs follow loc cs = .ok stop := by
  induction h with
  | done loc => rfl
  | here hdir h ih => rw [advance_here hdir, ih]
  | up hdir h ih => rw [advance_up hdir, ih]
  | @entry loc c rest stop node hdir hc hnode hlink h ih =>
    rw [advance_name hdir hc, hnode]
    cases node with
    | link target => exact absurd rfl (hlink target)
    | file bytes => exact ih
    | directory => exact ih
    | device kind => exact ih
  | @link loc c rest target hdir hc hnode hrest =>
    rw [advance_name hdir hc, hnode]
    refine if_neg fun hlast => ?_
    rcases hrest with hne | htrue
    · exact hne hlast.1
    · rw [htrue] at hlast
      cases hlast.2
  | last hdir hc hnode hfollow =>
    rw [advance_name hdir hc, hnode, hfollow]
    rfl
  | free hdir hc hnode =>
    rw [advance_name hdir hc, hnode]
    rfl

/-- **`Advances` is what `advance` does.** -/
theorem advance_eq_ok_iff {loc : Location} {cs : List Bytes} {stop : Stop} :
    advance fs follow loc cs = .ok stop ↔ Advances fs follow loc cs stop :=
  ⟨advances_of_advance, Advances.advance_eq⟩

/-! ## Other files, longer paths -/

/-- Has every directory, link and device that `fs` has, where `fs` has it. -/
def KeepsWays (fs' fs : FileSystem) : Prop :=
  ∀ loc node, fs.lookup loc = some node → (∀ bytes, node ≠ .file bytes) → fs'.lookup loc = some node

theorem KeepsWays.directory {fs' : FileSystem} (hsub : KeepsWays fs' fs) {loc : Location}
    (h : fs.lookup loc = some .directory) : fs'.lookup loc = some .directory :=
  hsub loc .directory h fun _ heq => by cases heq

theorem KeepsWays.link {fs' : FileSystem} (hsub : KeepsWays fs' fs) {loc : Location} {target : Path}
    (h : fs.lookup loc = some (.link target)) : fs'.lookup loc = some (.link target) :=
  hsub loc (.link target) h fun _ heq => by cases heq

theorem keepsWays_insert {loc : Location} (hne : loc ≠ [])
    (h : ∀ node, fs.lookup loc = some node → ∃ bytes, node = .file bytes) (node : Node) :
    KeepsWays (fs.insert loc node) fs := by
  intro loc' node' hnode hfile
  rw [lookup_insert hne]
  by_cases heq : loc' = loc
  · obtain ⟨bytes, rfl⟩ := h node' (heq ▸ hnode)
    exact absurd rfl (hfile bytes)
  · rw [if_neg heq]
    exact hnode

theorem keepsWays_erase {loc : Location} (hne : loc ≠ []) {contents : Bytes}
    (h : fs.lookup loc = some (.file contents)) : KeepsWays (fs.erase loc) fs := by
  intro loc' node hnode hfile
  rw [lookup_erase hne]
  by_cases heq : loc' = loc
  · rw [heq, h] at hnode
    cases hnode
    exact absurd rfl (hfile contents)
  · rw [if_neg heq]
    exact hnode

theorem Advances.directory_of_cons {loc : Location} {c : Bytes} {rest : List Bytes} {stop : Stop}
    (h : Advances fs follow loc (c :: rest) stop) : fs.lookup loc = some .directory := by
  cases h with
  | here hdir => exact hdir
  | up hdir => exact hdir
  | entry hdir => exact hdir
  | link hdir => exact hdir
  | last hdir => exact hdir
  | free hdir => exact hdir

theorem Advances.mono {fs' : FileSystem} (hsub : KeepsWays fs' fs) {loc : Location} {cs : List Bytes} {stop : Stop}
    (h : Advances fs follow loc cs stop)
    (hend : ∀ d, stop = .found d → fs.lookup d = some .directory ∨ ∃ bytes, fs'.lookup d = some (.file bytes)) :
    Advances fs' follow loc cs stop := by
  induction h with
  | done loc => exact .done loc
  | here hdir h ih => exact .here (hsub.directory hdir) (ih hend)
  | up hdir h ih => exact .up (hsub.directory hdir) (ih hend)
  | @entry loc c rest stop node hdir hc hnode hlink h ih =>
    have hnext : fs.lookup (loc ++ [c]) = some .directory ∨ ∃ bytes, fs'.lookup (loc ++ [c]) = some (.file bytes) := by
      cases rest with
      | nil =>
        cases h
        exact hend _ rfl
      | cons => exact .inl h.directory_of_cons
    rcases hnext with hd | ⟨bytes, hfile⟩
    · exact .entry (hsub.directory hdir) hc (hsub.directory hd) (fun _ heq => by cases heq) (ih hend)
    · exact .entry (hsub.directory hdir) hc hfile (fun _ heq => by cases heq) (ih hend)
  | link hdir hc hnode hrest => exact .link (hsub.directory hdir) hc (hsub.link hnode) hrest
  | last hdir hc hnode hfollow => exact .last (hsub.directory hdir) hc (hsub.link hnode) hfollow
  | free hdir hc hnode =>
    rcases hend _ rfl with hd | ⟨bytes, hfile⟩
    · -- a free location would not be a directory
      rw [hnode] at hd
      cases hd
    · exact .entry (hsub.directory hdir) hc hfile (fun _ heq => by cases heq) (.done _)

theorem Advances.append {loc d : Location} {cs : List Bytes} (h : Advances fs true loc cs (.found d))
    (hd : fs.lookup d = some .directory) {x : List Bytes} {stop : Stop} (hx : Advances fs follow d x stop) :
    Advances fs follow loc (cs ++ x) stop := by
  generalize hs : Stop.found d = found at h
  induction h with
  | done loc =>
    cases hs
    exact hx
  | here hdir h ih => exact .here hdir (ih hs)
  | up hdir h ih => exact .up hdir (ih hs)
  | entry hdir hc hnode hlink h ih => exact .entry hdir hc hnode hlink (ih hs)
  | link hdir hc hnode hrest => cases hs
  | last hdir hc hnode hfollow => cases hfollow
  | free hdir hc hnode =>
    cases hs
    rw [hnode] at hd
    cases hd

theorem Advances.append_link {loc dir : Location} {cs rest : List Bytes} {target : Path}
    (h : Advances fs true loc cs (.link dir target rest)) {x : List Bytes} (hx : x ≠ []) :
    Advances fs follow loc (cs ++ x) (.link dir target (rest ++ x)) := by
  generalize hs : Stop.link dir target rest = stop at h
  induction h with
  | done loc => cases hs
  | here hdir h ih => exact .here hdir (ih hs)
  | up hdir h ih => exact .up hdir (ih hs)
  | entry hdir hc hnode hlink h ih => exact .entry hdir hc hnode hlink (ih hs)
  | link hdir hc hnode hrest =>
    cases hs
    exact .link hdir hc hnode (.inl (List.append_ne_nil_of_right_ne_nil _ hx))
  | last hdir hc hnode hfollow => cases hs
  | free hdir hc hnode => cases hs

/-- The last step is taken from a directory, unless a link comes before it. -/
theorem Advances.of_concat : ∀ {cs : List Bytes} {loc : Location} {c : Bytes} {stop : Stop},
    Advances fs follow loc (cs ++ [c]) stop →
      (∃ d, Advances fs true loc cs (.found d) ∧ fs.lookup d = some .directory ∧ Advances fs follow d [c] stop) ∨
      ∃ dir target rest, Advances fs true loc cs (.link dir target rest) ∧ stop = .link dir target (rest ++ [c])
  | [], loc, _, _, h => .inl ⟨loc, .done loc, h.directory_of_cons, h⟩
  | b :: cs, loc, c, stop, h => by
    rw [List.cons_append] at h
    generalize hl : cs ++ [c] = l at h
    cases h with
    | here hdir h =>
      rcases of_concat (hl ▸ h) with ⟨d, hcs, hd⟩ | ⟨dir, target, rest, hcs, hs⟩
      · exact .inl ⟨d, .here hdir hcs, hd⟩
      · exact .inr ⟨dir, target, rest, .here hdir hcs, hs⟩
    | up hdir h =>
      rcases of_concat (hl ▸ h) with ⟨d, hcs, hd⟩ | ⟨dir, target, rest, hcs, hs⟩
      · exact .inl ⟨d, .up hdir hcs, hd⟩
      · exact .inr ⟨dir, target, rest, .up hdir hcs, hs⟩
    | entry hdir hc hnode hlink h =>
      rcases of_concat (hl ▸ h) with ⟨d, hcs, hd⟩ | ⟨dir, target, rest, hcs, hs⟩
      · exact .inl ⟨d, .entry hdir hc hnode hlink hcs, hd⟩
      · exact .inr ⟨dir, target, rest, .entry hdir hc hnode hlink hcs, hs⟩
    | @link _ _ _ target hdir hc hnode hrest =>
      subst hl
      exact .inr ⟨loc, target, cs, .link hdir hc hnode (.inr rfl), rfl⟩
    | last hdir hc hnode hfollow => exact absurd hl (List.concat_ne_nil _ cs)
    | free hdir hc hnode => exact absurd hl (List.concat_ne_nil _ cs)

theorem Advances.link_directory {loc dir : Location} {cs rest : List Bytes} {target : Path}
    (h : Advances fs follow loc cs (.link dir target rest)) : fs.lookup dir = some .directory := by
  generalize hs : Stop.link dir target rest = stop at h
  induction h with
  | done loc => cases hs
  | here hdir h ih => exact ih hs
  | up hdir h ih => exact ih hs
  | entry hdir hc hnode hlink h ih => exact ih hs
  | link hdir hc hnode hrest =>
    cases hs
    exact hdir
  | last hdir hc hnode hfollow => cases hs
  | free hdir hc hnode => cases hs

theorem Advances.not_link (hr : fs.Rooted) {loc d : Location} {cs : List Bytes} (h : Advances fs true loc cs (.found d))
    (hloc : ∀ target, fs.lookup loc ≠ some (.link target)) (target : Path) : fs.lookup d ≠ some (.link target) := by
  generalize hs : Stop.found d = stop at h
  induction h with
  | done loc =>
    cases hs
    exact hloc target
  | here hdir h ih => exact ih hloc hs
  | up hdir h ih =>
    refine ih (fun target' hlink => ?_) hs
    rw [hr.parent hdir] at hlink
    cases hlink
  | entry hdir hc hnode hlink h ih =>
    refine ih (fun target' hlink' => ?_) hs
    rw [hnode] at hlink'
    exact hlink target' (Option.some.inj hlink')
  | link hdir hc hnode hrest => cases hs
  | last hdir hc hnode hfollow => cases hfollow
  | free hdir hc hnode =>
    cases hs
    rw [hnode]
    exact fun heq => by cases heq

theorem Advances.of_here {loc : Location} {stop : Stop} (h : Advances fs follow loc [Path.here] stop) :
    stop = .found loc := by
  have hdir := h.directory_of_cons
  rw [← advance_eq_ok_iff, advance_here hdir] at h
  cases h
  rfl

theorem Advances.isName {loc : Location} {c : Bytes} {stop : Stop} (h : Advances fs follow loc [c] stop)
    (hhere : c ≠ Path.here) (hup : c ≠ Path.up) : IsName c := by
  cases h with
  | here => exact absurd rfl hhere
  | up => exact absurd rfl hup
  | entry hdir hc => exact hc
  | link hdir hc => exact hc
  | last hdir hc => exact hc
  | free hdir hc => exact hc

/-- A step to a name leads to the entry of that name, unless it is a link. -/
theorem Advances.of_name {loc : Location} {c : Bytes} {stop : Stop} (hc : IsName c)
    (h : Advances fs follow loc [c] stop) :
    stop = .found (loc ++ [c]) ∨ ∃ target, fs.lookup (loc ++ [c]) = some (.link target) := by
  have hdir := h.directory_of_cons
  rw [← advance_eq_ok_iff, advance_name hdir hc] at h
  split at h
  next target hnode => exact .inr ⟨target, hnode⟩
  next =>
    cases h
    exact .inl rfl
  next =>
    rw [if_pos rfl] at h
    cases h
    exact .inl rfl

/-! ## Through links -/

/-- Components that lead to a location, through at most `budget` links. -/
inductive Leads (fs : FileSystem) (last : Bool) : Nat → Location → List Bytes → Location → Prop
  | found {budget : Nat} {loc d : Location} {cs : List Bytes} (h : Advances fs last loc cs (.found d)) :
      Leads fs last budget loc cs d
  | link {budget : Nat} {loc dir d : Location} {cs rest : List Bytes} {target : Path}
      (h : Advances fs last loc cs (.link dir target rest))
      (hrest : Leads fs last budget (base dir target) (target.components ++ rest) d) :
      Leads fs last (budget + 1) loc cs d

variable {last : Bool}

theorem leads_of_follow : ∀ {budget : Nat} {loc d : Location} {cs : List Bytes},
    fs.follow last budget loc cs = .ok d → Leads fs last budget loc cs d
  | budget, loc, d, cs, h => by
    unfold FileSystem.follow at h
    split at h
    next => cases h
    next hfound =>
      cases h
      exact .found (advances_of_advance hfound)
    next hlink =>
      cases budget with
      | zero => cases h
      | succ budget => exact .link (advances_of_advance hlink) (leads_of_follow h)

theorem Leads.follow_eq {budget : Nat} {loc d : Location} {cs : List Bytes} (h : Leads fs last budget loc cs d) :
    fs.follow last budget loc cs = .ok d := by
  induction h with
  | found h =>
    unfold FileSystem.follow
    rw [h.advance_eq]
  | link h hrest ih =>
    unfold FileSystem.follow
    rw [h.advance_eq]
    exact ih

/-- **`Leads` is what `follow` does.** -/
theorem follow_eq_ok_iff {budget : Nat} {loc d : Location} {cs : List Bytes} :
    fs.follow last budget loc cs = .ok d ↔ Leads fs last budget loc cs d :=
  ⟨leads_of_follow, Leads.follow_eq⟩

/-- **Where a path leads stays the same when only files come and go**, as long as it is a directory or a file is there
in the end. -/
theorem Leads.mono {fs' : FileSystem} (hsub : KeepsWays fs' fs) {budget : Nat} {loc d : Location} {cs : List Bytes}
    (h : Leads fs last budget loc cs d)
    (hd : fs.lookup d = some .directory ∨ ∃ bytes, fs'.lookup d = some (.file bytes)) :
    Leads fs' last budget loc cs d := by
  induction h with
  | found h =>
    refine .found (h.mono hsub fun d' heq => ?_)
    cases heq
    exact hd
  | link h hrest ih => exact .link (h.mono hsub fun d' heq => by cases heq) (ih hd)

/-- **A path that leads to a directory can be gone on from there.** -/
theorem Leads.append {budget : Nat} {loc d d' : Location} {cs x : List Bytes} (h : Leads fs true budget loc cs d)
    (hd : fs.lookup d = some .directory) (hx : x ≠ []) (hd' : Advances fs last d x (.found d')) :
    Leads fs last budget loc (cs ++ x) d' := by
  induction h with
  | found h => exact .found (h.append hd hd')
  | link h hrest ih =>
    refine .link (h.append_link hx) ?_
    rw [← List.append_assoc]
    exact ih hd hd'

theorem lookup_base {loc : Location} (h : fs.lookup loc = some .directory) (p : Path) :
    fs.lookup (base loc p) = some .directory := by
  rw [base]
  split
  · rfl
  · exact h

theorem Leads.directory_of_ne_nil {budget : Nat} {loc d : Location} {cs : List Bytes}
    (h : Leads fs last budget loc cs d) (hcs : cs ≠ []) : fs.lookup loc = some .directory := by
  obtain ⟨c, rest, rfl⟩ := List.exists_cons_of_ne_nil hcs
  cases h with
  | found h => exact h.directory_of_cons
  | link h => exact h.directory_of_cons

/-- **A path that is followed to its end does not lead to a link.** -/
theorem Leads.not_link (hr : fs.Rooted) {budget : Nat} {loc d : Location} {cs : List Bytes}
    (h : Leads fs true budget loc cs d) (hloc : fs.lookup loc = some .directory) (target : Path) :
    fs.lookup d ≠ some (.link target) := by
  induction h with
  | found h => exact h.not_link hr (fun target' hlink => by rw [hloc] at hlink; cases hlink) target
  | link h hrest ih => exact ih (lookup_base h.link_directory _)

/-- **The last component of a path is looked for in a directory**, the one that the components before it lead to. -/
theorem Leads.of_concat {budget : Nat} {loc d' : Location} {cs : List Bytes} {c : Bytes}
    (h : Leads fs last budget loc (cs ++ [c]) d') :
    ∃ d stop, Leads fs true budget loc cs d ∧ fs.lookup d = some .directory ∧ Advances fs last d [c] stop ∧
      ∀ d'', stop = .found d'' → d'' = d' := by
  generalize hl : cs ++ [c] = l at h
  induction h generalizing cs with
  | @found _ _ d' _ h =>
    rcases (hl ▸ h).of_concat with ⟨d, hcs, hd, hstep⟩ | ⟨_, _, _, -, hs⟩
    · exact ⟨d, .found d', .found hcs, hd, hstep, fun d'' heq => (Stop.found.inj heq).symm⟩
    · cases hs
  | @link _ _ dir _ _ rest target h hrest ih =>
    rcases (hl ▸ h).of_concat with ⟨d, hcs, hd, hstep⟩ | ⟨_, _, _, hcs, hs⟩
    · exact ⟨d, .link dir target rest, .found hcs, hd, hstep, fun d'' heq => by cases heq⟩
    · cases hs
      obtain ⟨d, stop, hlead, hd⟩ := ih (List.append_assoc _ _ _)
      exact ⟨d, stop, .link hcs hlead, hd⟩

theorem Leads.of_here {budget : Nat} {loc d : Location} {cs : List Bytes}
    (h : Leads fs true budget loc (cs ++ [Path.here]) d) :
    fs.lookup d = some .directory ∧ Leads fs true budget loc cs d := by
  obtain ⟨d', stop, hlead, hd', hstep, hend⟩ := h.of_concat
  obtain rfl := hend d' hstep.of_here
  exact ⟨hd', hlead⟩

/-- **A file that may have to be made is placed where the path leads to**, which must not be a directory. -/
theorem place_eq_ok_iff {budget : Nat} {loc d : Location} {cs : List Bytes} (hd : fs.lookup d ≠ some .directory) :
    fs.place budget loc cs false = .ok d ↔ Leads fs true budget loc cs d := by
  constructor
  · intro h
    induction budget generalizing loc cs with
    | zero =>
      unfold place at h
      split at h
      next => cases h
      next hfound =>
        cases h
        exact .found (advances_of_advance hfound)
      next => cases h
    | succ budget ih =>
      unfold place at h
      split at h
      next => cases h
      next hfound =>
        cases h
        exact .found (advances_of_advance hfound)
      next dir target rest hlink =>
        refine .link (advances_of_advance hlink) ?_
        by_cases hrest : rest = []
        · simp only [if_pos hrest] at h
          cases hopen : target.endsOpen with
          | true =>
            rw [hopen] at h
            unfold place at h
            split at h <;> cases h
          | false =>
            rw [hopen] at h
            rw [Path.components, hopen, if_neg Bool.false_ne_true, hrest, List.append_nil]
            exact ih h
        · simp only [if_neg hrest] at h
          exact ih h
  · intro h
    induction h with
    | found h =>
      unfold place
      rw [h.advance_eq]
    | @link _ _ dir d _ rest target h hrest ih =>
      have hplace := ih hd
      unfold place
      rw [h.advance_eq]
      by_cases hempty : rest = []
      · subst hempty
        simp only [if_true]
        rw [List.append_nil] at hrest hplace
        cases hopen : target.endsOpen with
        | true =>
          -- a separator at the end of the link asks for a directory
          rw [Path.components, if_pos hopen] at hrest
          exact absurd hrest.of_here.1 hd
        | false =>
          rw [Path.components, hopen, if_neg Bool.false_ne_true] at hplace
          exact hplace
      · simp only [if_neg hempty]
        exact hplace

end FileSystem
end FirmwareVars
