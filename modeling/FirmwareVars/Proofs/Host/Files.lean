import FirmwareVars.Host.FileSystem
/-!
# What stands where

What making and clearing one location does to all the others (`lookup_insert`, `lookup_erase`), and to the entries of
a directory.  The entries of a directory are exactly the locations directly below it that are taken
(`mem_children_iff`), and neither operation lists an entry twice.  The files of a host are `Rooted`.
-/
namespace FirmwareVars
namespace FileSystem

variable {fs : FileSystem} {loc dir : Location}

/-! ## Single locations -/

theorem lookup_of_ne_nil (h : loc ≠ []) :
    fs.lookup loc = (fs.nodes.find? fun entry => entry.1 == loc).map Prod.snd := by
  cases loc with
  | nil => exact absurd rfl h
  | cons c rest => rfl

theorem find?_put (node : Node) (loc' : Location) : ∀ nodes : List (Location × Node),
    (put loc node nodes).find? (fun entry => entry.1 == loc') =
      if loc' = loc then some (loc, node) else nodes.find? fun entry => entry.1 == loc'
  | [] => by
    rw [put, List.find?_cons, List.find?_nil]
    by_cases h : loc' = loc
    · rw [if_pos h, h, beq_self_eq_true]
    · rw [if_neg h, beq_eq_false_iff_ne.2 (Ne.symm h)]
  | entry :: rest => by
    have ih := find?_put node loc' rest
    rw [put]
    by_cases h : loc' = loc
    · rw [if_pos h] at ih ⊢
      by_cases he : entry.1 = loc
      · rw [if_pos he, List.find?_cons, h, beq_self_eq_true]
      · rw [if_neg he, List.find?_cons, beq_eq_false_iff_ne.2 (h ▸ he), ih]
    · rw [if_neg h] at ih ⊢
      by_cases he : entry.1 = loc
      · rw [if_pos he, List.find?_cons, List.find?_cons, he, beq_eq_false_iff_ne.2 (Ne.symm h)]
      · rw [if_neg he, List.find?_cons, List.find?_cons, ih]

/-- **Making a location changes no other.** -/
theorem lookup_insert (h : loc ≠ []) (node : Node) (loc' : Location) :
    (fs.insert loc node).lookup loc' = if loc' = loc then some node else fs.lookup loc' := by
  by_cases hnil : loc' = []
  · rw [hnil, if_neg (Ne.symm h)]
    rfl
  · rw [lookup_of_ne_nil hnil, lookup_of_ne_nil hnil, insert, find?_put]
    by_cases heq : loc' = loc
    · rw [if_pos heq, if_pos heq, Option.map_some]
    · rw [if_neg heq, if_neg heq]

theorem put_put (node node' : Node) : ∀ nodes : List (Location × Node),
    put loc node' (put loc node nodes) = put loc node' nodes
  | [] => if_pos rfl
  | entry :: rest => by
    by_cases he : entry.1 = loc
    · rw [put, if_pos he, put, if_pos rfl, put, if_pos he]
    · rw [put, if_neg he, put, if_neg he, put, if_neg he, put_put node node' rest]

/-- **What was made first leaves no trace.** -/
theorem insert_insert (node node' : Node) : (fs.insert loc node).insert loc node' = fs.insert loc node' :=
  congrArg FileSystem.mk (put_put node node' fs.nodes)

theorem put_find? {entry : Location × Node} : ∀ nodes : List (Location × Node),
    nodes.find? (fun e => e.1 == loc) = some entry → put loc entry.2 nodes = nodes
  | [], h => by cases h
  | e :: rest, h => by
    rw [put]
    by_cases he : e.1 = loc
    · rw [List.find?_cons, he, beq_self_eq_true] at h
      obtain rfl := Option.some.inj h
      rw [if_pos he, ← he]
    · rw [List.find?_cons, beq_eq_false_iff_ne.2 he] at h
      rw [if_neg he, put_find? rest h]

theorem find?_filter (keep : Location → Bool) (loc' : Location) (nodes : List (Location × Node)) :
    (nodes.filter fun entry => keep entry.1).find? (fun entry => entry.1 == loc') =
      if keep loc' then nodes.find? fun entry => entry.1 == loc' else none := by
  rw [List.find?_filter]
  split
  next hkeep =>
    congr 1
    funext entry
    by_cases h : entry.1 = loc'
    · simp [h, hkeep]
    · simp [h]
  next hkeep =>
    refine List.find?_eq_none.2 fun entry _ h => hkeep ?_
    simp only [decide_eq_true_eq, beq_iff_eq] at h
    exact h.2 ▸ h.1

/-- The locations that are kept are as they were, the others are free. -/
theorem lookup_filter (keep : Location → Bool) (h : loc ≠ []) :
    (FileSystem.mk (fs.nodes.filter fun entry => keep entry.1)).lookup loc =
      if keep loc then fs.lookup loc else none := by
  rw [lookup_of_ne_nil h, lookup_of_ne_nil h, find?_filter]
  split <;> rfl

/-- **Clearing a location changes no other.** -/
theorem lookup_erase (h : loc ≠ []) (loc' : Location) :
    (fs.erase loc).lookup loc' = if loc' = loc then none else fs.lookup loc' := by
  by_cases hnil : loc' = []
  · rw [hnil, if_neg (Ne.symm h)]
    rfl
  · rw [erase, lookup_filter (· != loc) hnil]
    by_cases heq : loc' = loc <;> simp [heq]

theorem insert_self {node : Node} (h : loc ≠ []) (hnode : fs.lookup loc = some node) : fs.insert loc node = fs := by
  rw [lookup_of_ne_nil h] at hnode
  obtain ⟨entry, hfind, rfl⟩ := Option.map_eq_some_iff.1 hnode
  exact congrArg FileSystem.mk (put_find? fs.nodes hfind)

/-! ## Files -/

/-- The contents of the file at a location, if there is one. -/
def fileAt? (fs : FileSystem) (loc : Location) : Option Bytes :=
  match fs.lookup loc with
  | some (.file contents) => some contents
  | _ => none

theorem fileAt?_eq_some_iff {contents : Bytes} :
    fs.fileAt? loc = some contents ↔ fs.lookup loc = some (.file contents) := by
  unfold fileAt?
  cases fs.lookup loc with
  | none => simp
  | some node => cases node <;> simp

/-! ## Entries of a directory -/

/-- The locations that are taken, oldest first. -/
def locations (fs : FileSystem) : List Location := fs.nodes.map Prod.fst

theorem mem_locations_iff (h : loc ≠ []) : loc ∈ fs.locations ↔ ∃ node, fs.lookup loc = some node := by
  rw [lookup_of_ne_nil h, locations, List.mem_map]
  constructor
  · rintro ⟨entry, hmem, rfl⟩
    cases hf : fs.nodes.find? fun e => e.1 == entry.1 with
    | none => exact absurd (List.find?_eq_none.1 hf entry hmem) (by rw [beq_self_eq_true]; exact fun hn => hn rfl)
    | some found => exact ⟨found.2, rfl⟩
  · rintro ⟨node, hnode⟩
    obtain ⟨entry, hf, -⟩ := Option.map_eq_some_iff.1 hnode
    exact ⟨entry, List.mem_of_find?_eq_some hf, beq_iff_eq.1 (List.find?_some hf :)⟩

/-- Every location that is taken lies in a directory, as it does on any host. -/
def Rooted (fs : FileSystem) : Prop := ∀ entry ∈ fs.nodes, fs.lookup entry.1.dropLast = some .directory

instance (fs : FileSystem) : Decidable fs.Rooted := inferInstanceAs (Decidable (∀ entry ∈ fs.nodes, _))

theorem Rooted.parent (h : fs.Rooted) {node : Node} (hnode : fs.lookup loc = some node) :
    fs.lookup loc.dropLast = some .directory := by
  by_cases hne : loc = []
  · rw [hne]
    rfl
  · obtain ⟨entry, hmem, rfl⟩ := List.mem_map.1 ((mem_locations_iff hne).2 ⟨node, hnode⟩)
    exact h entry hmem

theorem map_fst_put (node : Node) : ∀ nodes : List (Location × Node), (put loc node nodes).map Prod.fst =
    if loc ∈ nodes.map Prod.fst then nodes.map Prod.fst else nodes.map Prod.fst ++ [loc]
  | [] => rfl
  | entry :: rest => by
    have ih := map_fst_put node rest
    rw [put, List.map_cons]
    by_cases he : entry.1 = loc
    · rw [if_pos he, if_pos (List.mem_cons.2 (.inl he.symm)), List.map_cons, he]
    · rw [if_neg he, List.map_cons, ih]
      by_cases hm : loc ∈ rest.map Prod.fst
      · rw [if_pos hm, if_pos (List.mem_cons_of_mem _ hm)]
      · rw [if_neg hm, if_neg (List.not_mem_cons_of_ne_of_not_mem (Ne.symm he) hm), List.cons_append]

theorem childName?_eq_some_iff {c : Bytes} : childName? dir loc = some c ↔ loc = dir ++ [c] := by
  rw [childName?]
  constructor
  · intro h
    by_cases hc : loc ≠ [] ∧ loc.dropLast = dir
    · rw [if_pos hc] at h
      obtain ⟨init, rfl⟩ := List.getLast?_eq_some_iff.1 h
      rw [← hc.2, List.dropLast_concat]
    · rw [if_neg hc] at h
      cases h
  · rintro rfl
    rw [if_pos ⟨List.concat_ne_nil c dir, List.dropLast_concat⟩,
      List.getLast?_concat]

theorem children_eq (fs : FileSystem) (dir : Location) : fs.children dir = fs.locations.filterMap (childName? dir) := by
  rw [children, locations, List.filterMap_map]
  rfl

/-- **The entries of a directory are the taken locations directly below it.** -/
theorem mem_children_iff {c : Bytes} : c ∈ fs.children dir ↔ ∃ node, fs.lookup (dir ++ [c]) = some node := by
  rw [← mem_locations_iff (List.concat_ne_nil c dir), children_eq, List.mem_filterMap]
  constructor
  · rintro ⟨loc, hmem, hloc⟩
    exact childName?_eq_some_iff.1 hloc ▸ hmem
  · intro hmem
    exact ⟨_, hmem, childName?_eq_some_iff.2 rfl⟩

theorem lookup_of_children_eq_nil (h : fs.children dir = []) (c : Bytes) : fs.lookup (dir ++ [c]) = none := by
  cases hn : fs.lookup (dir ++ [c]) with
  | none => rfl
  | some node =>
    have hmem := mem_children_iff.2 ⟨node, hn⟩
    rw [h] at hmem
    exact absurd hmem List.not_mem_nil

theorem nodup_children_insert (node : Node) (h : (fs.children dir).Nodup) :
    ((fs.insert loc node).children dir).Nodup := by
  rw [children_eq] at h ⊢
  rw [locations, insert, map_fst_put]
  by_cases hm : loc ∈ fs.nodes.map Prod.fst
  · rwa [if_pos hm]
  · rw [if_neg hm, List.filterMap_append]
    cases hc : childName? dir loc with
    | none =>
      rw [List.filterMap_cons_none hc, List.filterMap_nil, List.append_nil]
      exact h
    | some c =>
      rw [List.filterMap_cons_some hc, List.filterMap_nil]
      refine List.nodup_append.2 ⟨h, List.pairwise_singleton _ c, fun b hin c' hc' heq => hm ?_⟩
      obtain rfl := List.mem_singleton.1 hc'
      subst heq
      obtain ⟨loc', hmem, hloc'⟩ := List.mem_filterMap.1 hin
      rw [childName?_eq_some_iff.1 hc, ← childName?_eq_some_iff.1 hloc']
      exact hmem

/-- **Clearing an entry takes its name from the directory.** -/
theorem children_erase (fs : FileSystem) (dir : Location) (c : Bytes) :
    (fs.erase (dir ++ [c])).children dir = (fs.children dir).filter (· != c) := by
  rw [children, children, erase, List.filterMap_filter, List.filter_filterMap]
  congr 1
  funext entry
  by_cases hloc : entry.1 = dir ++ [c]
  · rw [childName?_eq_some_iff.2 hloc]
    simp [hloc, Option.filter]
  · cases hname : childName? dir entry.1 with
    | none => simp
    | some c' =>
      have hc : c' ≠ c := by
        rintro rfl
        exact hloc (childName?_eq_some_iff.1 hname)
      simp [hloc, hc, Option.filter]

theorem nodup_children_erase (h : (fs.children dir).Nodup) : ((fs.erase loc).children dir).Nodup :=
  h.sublist (List.filter_sublist.filterMap _)

end FileSystem
end FirmwareVars
