import FirmwareVars.Proofs.Store.Access
import Mathlib.Logic.Function.Basic
/-!
# Writes side by side

A store locks nothing, so while one write goes on another one may begin.  `Interleaves` runs scripts side by side on one
machine, a request at a time and in any order.  Of a write two requests count: it `opens` the file, which empties it, and
then it `writes` from the start of the file, over what is there by then.  What any number of writes to one file leave in
it is what these stages come to, one after the other (`held_of_interleaves`), and they may come in any order that keeps
each write in its own order (`exists_interleaves`).

Of two writes the one that wrote last has its bytes at the start of the file.  They are all of the file unless the other
one wrote after the opening of the last one, and wrote more (`last_write_first`).
-/
namespace FirmwareVars

open EntryName (Addressable)

/-! ## Scripts side by side -/

/-- A request, and who made it. -/
structure Turn (ι : Type) where
  side : ι
  {β : Type}
  request : Request Location β

namespace Machine

/-- Scripts on one machine, any of which takes the next turn until all are done: the turns that were taken, what each
script gave, and the machine afterwards. -/
inductive Interleaves {ι α : Type} [DecidableEq ι] :
    Machine → (ι → Script Location α) → List (Turn ι) → (ι → α) → Machine → Prop
  | done {m : Machine} {scripts : ι → Script Location α} {results : ι → α} (h : ∀ i, scripts i = .done (results i)) :
    Interleaves m scripts [] results m
  | turn {m m' : Machine} {scripts : ι → Script Location α} {turns : List (Turn ι)} {results : ι → α} (i : ι) {β : Type}
    {r : Request Location β} {next : β → Script Location α} (h : scripts i = .ask r next)
    (rest : Interleaves (m.answer r).2 (Function.update scripts i (next (m.answer r).1)) turns results m') :
    Interleaves m scripts (⟨i, r⟩ :: turns) results m'

end Machine

namespace Store

/-! ## The stages of a write -/

inductive Stage
  | opens
  | writes
  deriving DecidableEq

/-- What a request does to the file of a variable, as far as a write makes such requests. -/
def stageOf? {β : Type} : Request Location β → Option Stage
  | .openEmptied _ => some .opens
  | .writeAll _ _ => some .writes
  | _ => none

section Stages

variable {ι : Type}

def stagesOf (t : Turn ι) : List (ι × Stage) := (stageOf? t.request).toList.map fun stage => (t.side, stage)

/-- The stages of all turns, in the order in which they were taken. -/
def stages (turns : List (Turn ι)) : List (ι × Stage) := turns.flatMap stagesOf

def ofSide [DecidableEq ι] (i : ι) (steps : List (ι × Stage)) : List Stage :=
  (steps.filter fun step => step.1 = i).map Prod.snd

@[simp] theorem ofSide_cons_self [DecidableEq ι] (i : ι) (stage : Stage) (steps : List (ι × Stage)) :
    ofSide i ((i, stage) :: steps) = stage :: ofSide i steps := by
  simp [ofSide]

@[simp] theorem ofSide_cons_of_ne [DecidableEq ι] {i j : ι} (h : i ≠ j) (stage : Stage) (steps : List (ι × Stage)) :
    ofSide j ((i, stage) :: steps) = ofSide j steps := by
  simp [ofSide, h]

theorem ofSide_append [DecidableEq ι] (i : ι) (a b : List (ι × Stage)) :
    ofSide i (a ++ b) = ofSide i a ++ ofSide i b := by
  rw [ofSide, List.filter_append, List.map_append]
  rfl

/-- The contents of a file after a stage, if it has been opened by then.  A write goes over what is there. -/
def effect (packed : ι → Bytes) (contents : Option Bytes) : ι × Stage → Option Bytes
  | (_, .opens) => some []
  | (i, .writes) => contents.map fun old => FileSystem.overwrite old (packed i)

def contentsAfter (packed : ι → Bytes) (contents : Option Bytes) (steps : List (ι × Stage)) : Option Bytes :=
  steps.foldl (effect packed) contents

end Stages

/-- How far a write has come. -/
inductive Phase
  | opening
  | writing
  | telling
  | ended
  deriving DecidableEq

def Phase.stages : Phase → List Stage
  | .opening => [.opens, .writes]
  | .writing => [.writes]
  | .telling | .ended => []

def told (path : Path) (v : Variable) : Work Location Outcome := do
  Operation.tell (.wroteVariable path v.attributes v.toBytes.length)
  return .written v.toBytes.length

/-- What is still to be done of a write, to a file that is at `loc` once it is open. -/
def replaceFrom (path : Path) (v : Variable) (loc : Location) : Phase → Script Location (Except StoreError Outcome)
  | .opening => (replace path v).run
  | .writing => (Operation.ask (.writeAll loc v.toBytes) (.host .write path) >>= fun _ => told path v).run
  | .telling => (told path v).run
  | .ended => .done (.ok (.written v.toBytes.length))

/-- The files with these contents at a location, or with what was there before. -/
def held (base : FileSystem) (loc : Location) : Option Bytes → FileSystem
  | none => base
  | some bytes => base.insert loc (.file bytes)

/-- The paths of some files lead to one location on a host, where there is a file or room for one. -/
structure Shared {ι : Type} (base : FileSystem) (cwd : Location) (path : ι → Path) (loc : Location) : Prop where
  not_directory : base.lookup loc ≠ some .directory
  not_device : ∀ kind, base.lookup loc ≠ some (.device kind)
  /-- They still lead there when the file is filled. -/
  locate : ∀ i contents, (held base loc contents).locate cwd true (path i) = .ok loc

section Race

variable {ι : Type} {base : FileSystem} {cwd loc : Location} {path : ι → Path} {m m' : Machine}
  {contents : Option Bytes}

theorem lookup_held (h : Shared base cwd path loc) (bytes : Bytes) :
    (held base loc (some bytes)).lookup loc = some (.file bytes) := by
  rw [held, FileSystem.lookup_insert (FileSystem.ne_nil_of_not_directory h.not_directory), if_pos rfl]

theorem plain_held (h : Shared base cwd path loc) : ∀ contents, (held base loc contents).lookup loc ≠ some .directory ∧
    ∀ kind, (held base loc contents).lookup loc ≠ some (.device kind)
  | none => ⟨h.not_directory, h.not_device⟩
  | some bytes => by simp [lookup_held h bytes]

theorem filled_held (h : Shared base cwd path loc) (contents : Option Bytes) (bytes : Bytes) :
    (held base loc contents).filled loc bytes = held base loc (some bytes) := by
  rw [FileSystem.filled_of_not_device (plain_held h contents).2]
  cases contents with
  | none => rfl
  | some old => exact FileSystem.insert_insert _ _

theorem answer_openEmptied (h : Shared base cwd path loc) (i : ι) (hcwd : m.cwd = cwd)
    (hfiles : m.files = held base loc contents) :
    m.answer (.openEmptied (path i)) = (.ok loc, m.holding (held base loc (some []))) := by
  have hopen := FileSystem.openEmptied_eq_ok_iff.2 ⟨h.locate i contents, (plain_held h contents).1, rfl⟩
  rw [filled_held h, ← hfiles, ← hcwd] at hopen
  simp only [Machine.answer, hopen]
  rfl

theorem answer_writeAll (h : Shared base cwd path loc) (bytes old : Bytes) (hfiles : m.files = held base loc (some old)) :
    m.answer (.writeAll loc bytes) = (.ok (), m.holding (held base loc (some (FileSystem.overwrite old bytes)))) := by
  have hwrite : m.files.write loc bytes = .ok (held base loc (some (FileSystem.overwrite old bytes))) := by
    rw [hfiles, FileSystem.write, lookup_held h]
    exact congrArg Except.ok (FileSystem.insert_insert _ _)
  rw [Machine.answer, hwrite]
  rfl

/-! ## Turns and runs -/

variable {v : ι → Variable}

/-- **What a turn does**: the write goes on to its next phase, and the file holds what the stage makes of it. -/
theorem turn_of_replaceFrom (h : Shared base cwd path loc) {i : ι} {p : Phase} {β : Type} {r : Request Location β}
    {next : β → Script Location (Except StoreError Outcome)} (hask : replaceFrom (path i) (v i) loc p = .ask r next)
    (hcwd : m.cwd = cwd) (hfiles : m.files = held base loc contents) (hfirst : contents = none → p = .opening) :
    ∃ p' bytes, next (m.answer r).1 = replaceFrom (path i) (v i) loc p' ∧ (m.answer r).2.cwd = cwd ∧
      (m.answer r).2.files = held base loc (some bytes) ∧ p.stages = (stageOf? r).toList ++ p'.stages ∧
      contentsAfter (fun i => (v i).toBytes) contents (stagesOf ⟨i, r⟩) = some bytes := by
  cases p with
  | opening =>
    cases hask
    rw [answer_openEmptied h i hcwd hfiles]
    exact ⟨.writing, [], rfl, hcwd, rfl, rfl, rfl⟩
  | writing =>
    cases hask
    cases contents with
    | none => cases hfirst rfl
    | some old =>
      rw [answer_writeAll h _ old hfiles]
      exact ⟨.telling, _, rfl, hcwd, rfl, rfl, rfl⟩
  | telling =>
    cases hask
    cases contents with
    | none => cases hfirst rfl
    | some old => exact ⟨.ended, old, rfl, hcwd, hfiles, rfl, rfl⟩
  | ended => cases hask

variable [DecidableEq ι]

theorem update_replaceFrom (path : ι → Path) (v : ι → Variable) (loc : Location) (phase : ι → Phase) (i : ι) (p : Phase) :
    Function.update (fun j => replaceFrom (path j) (v j) loc (phase j)) i (replaceFrom (path i) (v i) loc p) =
      fun j => replaceFrom (path j) (v j) loc (Function.update phase i p j) := by
  funext j
  rw [Function.apply_update fun j => replaceFrom (path j) (v j) loc]

theorem ofSide_stagesOf (i j : ι) {β : Type} (r : Request Location β) :
    ofSide j (stagesOf ⟨i, r⟩) = if i = j then (stageOf? r).toList else [] := by
  unfold stagesOf ofSide
  by_cases hij : i = j <;> cases stageOf? r <;> simp [hij]

/-- **What writes side by side leave in the file**, however their turns fall: the stages, one after the other.  Each
write reports all of its bytes as written. -/
theorem held_of_interleaves {m m' : Machine} {scripts : ι → Script Location (Except StoreError Outcome)}
    {turns : List (Turn ι)} {results : ι → Except StoreError Outcome} (h : Shared base cwd path loc)
    (hrun : Machine.Interleaves m scripts turns results m') :
    ∀ (phase : ι → Phase) (contents : Option Bytes), scripts = (fun i => replaceFrom (path i) (v i) loc (phase i)) →
      m.cwd = cwd → m.files = held base loc contents → (contents = none → ∀ i, phase i = .opening) →
      (∀ i, results i = .ok (.written (v i).toBytes.length)) ∧ (∀ i, ofSide i (stages turns) = (phase i).stages) ∧
        m'.files = held base loc (contentsAfter (fun i => (v i).toBytes) contents (stages turns)) := by
  -- along the turns, the phases say which scripts are left, and the contents what the file holds
  induction hrun with
  | @done m scripts results hdone =>
    intro phase contents hscripts _ hfiles _
    subst hscripts
    have hended (i : ι) : phase i = .ended := by
      have hi : replaceFrom (path i) (v i) loc (phase i) = .done (results i) := hdone i
      cases hphase : phase i with
      | ended => rfl
      | _ =>
        rw [hphase] at hi
        cases hi
    refine ⟨fun i => ?_, fun i => by rw [hended i]; rfl, hfiles⟩
    have hi := hdone i
    simp only [hended i, replaceFrom, Script.done.injEq] at hi
    exact hi.symm
  | @turn m m' scripts turns results i β r next hask rest ih =>
    intro phase contents hscripts hcwd hfiles hfirst
    subst hscripts
    obtain ⟨p', bytes, hnext, hcwd', hfiles', hstages, hbytes⟩ :=
      turn_of_replaceFrom h hask hcwd hfiles fun hnone => hfirst hnone i
    rw [hnext] at ih
    obtain ⟨hresults, hsides, hend⟩ :=
      ih _ _ (update_replaceFrom path v loc phase i p') hcwd' hfiles' fun hnone => by cases hnone
    have hcons : stages (⟨i, r⟩ :: turns) = stagesOf ⟨i, r⟩ ++ stages turns := List.flatMap_cons
    refine ⟨hresults, fun j => ?_, ?_⟩
    · rw [hcons, ofSide_append, ofSide_stagesOf, hsides j]
      by_cases hij : i = j
      · subst hij
        rw [if_pos rfl, Function.update_self, hstages]
      · rw [if_neg hij, Function.update_of_ne (Ne.symm hij), List.nil_append]
    · rw [hend, hcons, contentsAfter, contentsAfter, List.foldl_append]
      exact congrArg (fun c => held base loc (List.foldl _ c _)) hbytes.symm

theorem interleaves_cons (phase : ι → Phase) {i : ι} {p : Phase} {β : Type} {r : Request Location β} {x : β} {m₁ : Machine}
    {next : β → Script Location (Except StoreError Outcome)} {turns : List (Turn ι)}
    {results : ι → Except StoreError Outcome} (hask : replaceFrom (path i) (v i) loc (phase i) = .ask r next)
    (hanswer : m.answer r = (x, m₁)) (hnext : next x = replaceFrom (path i) (v i) loc p)
    (hrun : Machine.Interleaves m₁ (fun j => replaceFrom (path j) (v j) loc (Function.update phase i p j)) turns results m') :
    Machine.Interleaves m (fun j => replaceFrom (path j) (v j) loc (phase j)) (⟨i, r⟩ :: turns) results m' := by
  refine .turn i hask ?_
  rw [hanswer, hnext, update_replaceFrom]
  exact hrun

/-- **Any order of the stages is possible** that keeps those of each write in their order. -/
theorem exists_interleaves (h : Shared base cwd path loc) : ∀ (steps : List (ι × Stage)) (phase : ι → Phase)
    (contents : Option Bytes) {m : Machine}, (∀ i, ofSide i steps = (phase i).stages) → (∀ i, phase i ≠ .telling) →
      m.cwd = cwd → m.files = held base loc contents → (contents = none → ∀ i, phase i = .opening) →
      ∃ turns results m', Machine.Interleaves m (fun i => replaceFrom (path i) (v i) loc (phase i)) turns results m' ∧
        stages turns = steps
  | [], phase, contents, m, hsides, htelling, _, _, _ => by
    have hended (i : ι) : phase i = .ended := by
      have hi := hsides i
      cases hphase : phase i with
      | ended => rfl
      | telling => exact absurd hphase (htelling i)
      | _ =>
        rw [hphase] at hi
        cases hi
    exact ⟨[], _, m, .done fun i => by rw [hended i]; rfl, rfl⟩
  | (i, stage) :: steps, phase, contents, m, hsides, htelling, hcwd, hfiles, hfirst => by
    have hi := hsides i
    rw [ofSide_cons_self] at hi
    have hrest {p : Phase} (hp : ofSide i steps = p.stages) : ∀ j, ofSide j steps = (Function.update phase i p j).stages :=
      (Function.forall_update_iff phase fun j q => ofSide j steps = q.stages).2
        ⟨hp, fun j hj => by rw [← hsides j, ofSide_cons_of_ne (Ne.symm hj)]⟩
    have hnot {p : Phase} (hp : p ≠ .telling) : ∀ j, Function.update phase i p j ≠ .telling :=
      (Function.forall_update_iff phase fun _ q => q ≠ .telling).2 ⟨hp, fun j _ => htelling j⟩
    cases hphase : phase i with
    | opening =>
      rw [hphase] at hi
      obtain ⟨rfl, hleft⟩ := List.cons.inj hi
      obtain ⟨turns, results, m', hrun, hsteps⟩ := exists_interleaves h steps _ (some [])
        (m := m.holding (held base loc (some []))) (hrest (p := .writing) hleft) (hnot (by decide)) hcwd rfl
        fun hnone => by cases hnone
      refine ⟨⟨i, .openEmptied (path i)⟩ :: turns, results, m',
        interleaves_cons phase (by rw [hphase]; rfl) (answer_openEmptied h i hcwd hfiles) rfl hrun, ?_⟩
      rw [← hsteps]
      rfl
    | writing =>
      rw [hphase] at hi
      obtain ⟨rfl, hleft⟩ := List.cons.inj hi
      cases contents with
      | none =>
        rw [hfirst rfl i] at hphase
        cases hphase
      | some old =>
        -- the write and what it tells of it are two turns in a row
        let written := m.holding (held base loc (some (FileSystem.overwrite old (v i).toBytes)))
        let event := Event.wroteVariable (path i) (v i).attributes (v i).toBytes.length
        have hwrite : m.answer (.writeAll loc (v i).toBytes) = (.ok (), written) := answer_writeAll h _ old hfiles
        have htell : written.answer (.tell event) = ((), written.heard [event]) := rfl
        obtain ⟨turns, results, m', hrun, hsteps⟩ := exists_interleaves h steps _
          (some (FileSystem.overwrite old (v i).toBytes)) (m := written.heard [event]) (hrest (p := .ended) hleft)
          (hnot (by decide)) hcwd rfl fun hnone => by cases hnone
        rw [← Function.update_idem Phase.telling Phase.ended phase] at hrun
        have htold := interleaves_cons (Function.update phase i .telling) (p := .ended)
          (by rw [Function.update_self]; rfl) htell rfl hrun
        refine ⟨_, results, m', interleaves_cons phase (by rw [hphase]; rfl) hwrite rfl htold, ?_⟩
        rw [← hsteps]
        rfl
    | telling => exact absurd hphase (htelling i)
    | ended =>
      rw [hphase] at hi
      cases hi

end Race

/-! ## Two writes -/

inductive Side
  | first
  | second
  deriving DecidableEq

def Side.other : Side → Side
  | .first => .second
  | .second => .first

/-- The last side opened the file before the other one wrote to it. -/
def Overlaps (last : Side) (steps : List (Side × Stage)) : Prop :=
  [(last, Stage.opens), (last.other, Stage.writes)].Sublist steps

instance (last : Side) (steps : List (Side × Stage)) : Decidable (Overlaps last steps) :=
  inferInstanceAs (Decidable (List.Sublist _ _))

/-- Two lists of stages dealt into one. -/
inductive Dealt : List Stage → List Stage → List (Side × Stage) → Prop
  | nil : Dealt [] [] []
  | first {a b : List Stage} {steps : List (Side × Stage)} (stage : Stage) (h : Dealt a b steps) :
    Dealt (stage :: a) b ((.first, stage) :: steps)
  | second {a b : List Stage} {steps : List (Side × Stage)} (stage : Stage) (h : Dealt a b steps) :
    Dealt a (stage :: b) ((.second, stage) :: steps)

theorem dealt_ofSide : ∀ steps : List (Side × Stage), Dealt (ofSide .first steps) (ofSide .second steps) steps
  | [] => .nil
  | (.first, stage) :: steps => by
    rw [ofSide_cons_self, ofSide_cons_of_ne (by decide)]
    exact .first stage (dealt_ofSide steps)
  | (.second, stage) :: steps => by
    rw [ofSide_cons_self, ofSide_cons_of_ne (by decide)]
    exact .second stage (dealt_ofSide steps)

/-- What two writes leave in a file when `last` wrote last. -/
def leftBy (packed : Side → Bytes) (last : Side) (steps : List (Side × Stage)) : Bytes :=
  packed last ++ if Overlaps last steps then (packed last.other).drop (packed last).length else []

section LeftBy

variable (packed : Side → Bytes) {last : Side} {steps : List (Side × Stage)}

theorem leftBy_of_overlaps (h : Overlaps last steps) :
    leftBy packed last steps = FileSystem.overwrite (FileSystem.overwrite [] (packed last.other)) (packed last) := by
  rw [leftBy, if_pos h, FileSystem.overwrite, FileSystem.overwrite, List.drop_nil, List.append_nil]

theorem leftBy_of_not_overlaps (h : ¬ Overlaps last steps) :
    leftBy packed last steps = FileSystem.overwrite [] (packed last) := by
  rw [leftBy, if_neg h, FileSystem.overwrite, List.drop_nil]

/-- **The last write is all that is left** unless the other one overlaps with it and is longer. -/
theorem leftBy_eq_iff : leftBy packed last steps = packed last ↔
    (Overlaps last steps → (packed last.other).length ≤ (packed last).length) := by
  rw [leftBy, List.append_right_eq_self]
  by_cases h : Overlaps last steps
  · rw [if_pos h, List.drop_eq_nil_iff]
    exact ⟨fun hle _ => hle, fun hle => hle h⟩
  · rw [if_neg h]
    exact ⟨fun _ hover => absurd hover h, fun _ => rfl⟩

end LeftBy

/-- **Two writes come to the bytes of the last one, and what they do not cover of the other one** when it was written
after the opening of the last. -/
theorem contentsAfter_two {steps : List (Side × Stage)} (packed : Side → Bytes) (contents : Option Bytes)
    (h : ∀ k, ofSide k steps = [.opens, .writes]) : ∃ last, steps.getLast? = some (last, .writes) ∧
      contentsAfter packed contents steps = some (leftBy packed last steps) := by
  have hdealt := dealt_ofSide steps
  rw [h, h] at hdealt
  have happart {last : Side} {steps : List (Side × Stage)} (h : ¬ Overlaps last steps) :=
    congrArg some (leftBy_of_not_overlaps packed h).symm
  have hacross {last : Side} {steps : List (Side × Stage)} (h : Overlaps last steps) :=
    congrArg some (leftBy_of_overlaps packed h).symm
  -- the six orders of two stages and two
  match hdealt with
  | .first _ (.first _ (.second _ (.second _ .nil))) => exact ⟨.second, rfl, happart (by decide)⟩
  | .first _ (.second _ (.first _ (.second _ .nil))) => exact ⟨.second, rfl, hacross (by decide)⟩
  | .first _ (.second _ (.second _ (.first _ .nil))) => exact ⟨.first, rfl, hacross (by decide)⟩
  | .second _ (.first _ (.first _ (.second _ .nil))) => exact ⟨.second, rfl, hacross (by decide)⟩
  | .second _ (.first _ (.second _ (.first _ .nil))) => exact ⟨.first, rfl, hacross (by decide)⟩
  | .second _ (.second _ (.first _ (.first _ .nil))) => exact ⟨.first, rfl, happart (by decide)⟩

structure WriteCall where
  store : Store
  payload : Bytes
  attributes : Option Attributes

namespace WriteCall

def stored (w : WriteCall) : Variable := ⟨w.attributes.getD w.store.config.attributes, w.payload⟩

/-- The bytes that the call writes: the attribute word, and then the payload. -/
def packed (w : WriteCall) : Bytes := w.stored.toBytes

def script (w : WriteCall) (i : Identity) : Script Location (Except StoreError Outcome) :=
  (w.store.write i (some w.payload) w.attributes).run

end WriteCall

theorem shared_variablePath {ι : Type} {m : Machine} {i : Identity} {calls : ι → WriteCall} {loc : Location}
    (hr : m.files.Rooted) (ha : Addressable i)
    (hloc : ∀ k, m.files.locate m.cwd true ((calls k).store.variablePath i) = .ok loc)
    (hdir : m.files.lookup loc ≠ some .directory) (hdev : ∀ kind, m.files.lookup loc ≠ some (.device kind)) :
    Shared m.files m.cwd (fun k => (calls k).store.variablePath i) loc where
  not_directory := hdir
  not_device := hdev
  locate k contents := by
    cases contents with
    | none => exact hloc k
    | some bytes =>
      rw [held, ← FileSystem.filled_of_not_device hdev]
      exact FileSystem.locate_filled hr (EntryName.isSingle_encode ha) (hloc k) hdir bytes

theorem scripts_eq_replaceFrom {ι : Type} {i : Identity} (ha : Addressable i) (calls : ι → WriteCall) (loc : Location) :
    (fun k => (calls k).script i) =
      fun k => replaceFrom ((calls k).store.variablePath i) (calls k).stored loc .opening := by
  funext k
  rw [WriteCall.script, write, bind_entryPath _ _ ha]
  rfl

/-- **Which of two writes wins.**  Two calls that write a variable whose file is a regular one, or is yet to be made, may
come in any order that lets each open the file before it writes to it.  Both report that all is written.  Of the call that
wrote last, the bytes stand at the start of the file, and nothing else changes; behind them stand the bytes of the other
call that are left over, if that call wrote after the last one had opened the file.  So the file holds what the last call
wrote, and no more, exactly when the other call did not write in between or was no longer. -/
theorem last_write_first (m : Machine) (i : Identity) (calls : Side → WriteCall) (loc : Location) (hr : m.files.Rooted)
    (ha : Addressable i) (hloc : ∀ k, m.files.locate m.cwd true ((calls k).store.variablePath i) = .ok loc)
    (hdir : m.files.lookup loc ≠ some .directory) (hdev : ∀ kind, m.files.lookup loc ≠ some (.device kind)) :
    (∀ steps, (∀ k, ofSide k steps = [.opens, .writes]) → ∃ turns results m',
      Machine.Interleaves m (fun k => (calls k).script i) turns results m' ∧ stages turns = steps) ∧
    ∀ turns results m', Machine.Interleaves m (fun k => (calls k).script i) turns results m' →
      (∀ k, results k = .ok (.written (calls k).packed.length)) ∧ (∀ k, ofSide k (stages turns) = [.opens, .writes]) ∧
      ∃ last, (stages turns).getLast? = some (last, .writes) ∧
        m'.files = m.files.insert loc (.file ((calls last).packed ++
          if Overlaps last (stages turns) then (calls last.other).packed.drop (calls last).packed.length else [])) ∧
        (m'.files.lookup loc = some (.file (calls last).packed) ↔
          (Overlaps last (stages turns) → (calls last.other).packed.length ≤ (calls last).packed.length)) := by
  have hshared := shared_variablePath hr ha hloc hdir hdev
  rw [scripts_eq_replaceFrom ha calls loc]
  refine ⟨fun steps hsteps => ?_, fun turns results m' hrun => ?_⟩
  · exact exists_interleaves hshared steps (fun _ => .opening) none hsteps (fun _ => by decide) rfl rfl fun _ _ => rfl
  · obtain ⟨hresults, hsides, hend⟩ :=
      held_of_interleaves hshared hrun (fun _ => .opening) none rfl rfl rfl fun _ _ => rfl
    obtain ⟨last, hlast, hleft⟩ := contentsAfter_two (fun k => (calls k).packed) none hsides
    have hfiles : m'.files = m.files.insert loc (.file (leftBy (fun k => (calls k).packed) last (stages turns))) :=
      hend.trans (congrArg (held m.files loc) hleft)
    refine ⟨hresults, hsides, last, hlast, hfiles, ?_⟩
    rw [hfiles, FileSystem.lookup_insert (FileSystem.ne_nil_of_not_directory hdir), if_pos rfl, Option.some.injEq,
      Node.file.injEq]
    exact leftBy_eq_iff fun k => (calls k).packed

/-- Seven bytes and four, of which the four are written last, into a file that both calls had opened before: three of the
seven stay behind them. -/
theorem last_write_not_alone :
    let m : Machine := ⟨⟨[([[0x64]], .directory)]⟩, [], [], []⟩
    let i : Identity := ⟨['B'], ⟨0, 0, 0, 0⟩⟩
    let calls (k : Side) : WriteCall := ⟨.atRoot ⟨[0x64]⟩, if k = .first then [9, 2, 3] else [], none⟩
    let loc : Location := [[0x64], Utf8.encode i.spell]
    ∃ turns results m', Machine.Interleaves m (fun k => (calls k).script i) turns results m' ∧
      (stages turns).getLast? = some (.second, .writes) ∧ m'.files.lookup loc = some (.file [7, 0, 0, 0, 9, 2, 3]) ∧
      (calls .second).packed = [7, 0, 0, 0] := by
  intro m i calls loc
  have hlocated (k : Side) : m.files.locate m.cwd true ((calls k).store.variablePath i) = .ok loc := by
    cases k <;> decide +kernel
  have hfree : m.files.lookup loc = none := by decide +kernel
  have hshared := shared_variablePath (by decide +kernel) (by decide) hlocated (by rw [hfree]; exact nofun)
    (by rw [hfree]; exact fun _ => nofun)
  have hscripts := scripts_eq_replaceFrom (i := i) (by decide) calls loc
  obtain ⟨turns, results, m', hrun, hstages⟩ := exists_interleaves (v := fun k => (calls k).stored) hshared
    [(.first, .opens), (.second, .opens), (.first, .writes), (.second, .writes)] (fun _ => .opening) none
    (fun k => by cases k <;> rfl) (fun _ => by decide) rfl rfl fun _ _ => rfl
  obtain ⟨-, -, hend⟩ := held_of_interleaves hshared hrun (fun _ => .opening) none rfl rfl rfl fun _ _ => rfl
  refine ⟨turns, results, m', hscripts ▸ hrun, by rw [hstages]; rfl, ?_, by decide +kernel⟩
  rw [hend, hstages]
  decide +kernel

/-- Five bytes and six, of which the six are written last: they are all that is left. -/
theorem last_write_first_longer :
    let m : Machine := ⟨⟨[([[0x64]], .directory)]⟩, [], [], []⟩
    let i : Identity := ⟨['B'], ⟨0, 0, 0, 0⟩⟩
    let calls (k : Side) : WriteCall := ⟨.atRoot ⟨[0x64]⟩, if k = .first then [1] else [2, 3], none⟩
    let loc : Location := [[0x64], Utf8.encode i.spell]
    m.files.Rooted ∧ Addressable i ∧ (∀ k, m.files.locate m.cwd true ((calls k).store.variablePath i) = .ok loc) ∧
      ∃ turns results m', Machine.Interleaves m (fun k => (calls k).script i) turns results m' ∧
        stages turns = [(.first, .opens), (.second, .opens), (.first, .writes), (.second, .writes)] ∧
        m'.files.lookup loc = some (.file [7, 0, 0, 0, 2, 3]) := by
  intro m i calls loc
  have hrooted : m.files.Rooted := by decide +kernel
  have ha : Addressable i := by decide
  have hlocated (k : Side) : m.files.locate m.cwd true ((calls k).store.variablePath i) = .ok loc := by
    cases k <;> decide +kernel
  have hfree : m.files.lookup loc = none := by decide +kernel
  obtain ⟨horder, hwins⟩ := last_write_first m i calls loc hrooted ha hlocated (by rw [hfree]; exact nofun)
    (by rw [hfree]; exact fun _ => nofun)
  obtain ⟨turns, results, m', hrun, hstages⟩ :=
    horder [(.first, .opens), (.second, .opens), (.first, .writes), (.second, .writes)] fun k => by cases k <;> rfl
  obtain ⟨-, -, last, hlast, -, hall⟩ := hwins turns results m' hrun
  rw [hstages] at hlast
  cases hlast
  have hpacked : (calls .second).packed = [7, 0, 0, 0, 2, 3] := by decide +kernel
  rw [hpacked] at hall
  exact ⟨hrooted, ha, hlocated, turns, results, m', hrun, hstages, hall.2 fun _ => by decide +kernel⟩

end Store
end FirmwareVars
