import FirmwareVars.Proofs.Host.Run
/-!
# Scripts that ask alike

Two scripts are `Alike` when they make the same requests in the same order, whatever they are answered, and come to
matching ends; only the events that they tell of may differ.  A machine is left with the same files by both, and their
ends match (`run_alike`).  So what a machine was told of makes no difference to what it does later (`run_like`).
-/
namespace FirmwareVars

variable {Handle α β γ δ : Type}

namespace Script

/-- The scripts differ at most in the events that they tell of, and `R` relates their ends. -/
inductive Alike (R : α → β → Prop) : Script Handle α → Script Handle β → Prop
  | done {a : α} {b : β} (h : R a b) : Alike R (.done a) (.done b)
  | ask {ι : Type} (r : Request Handle ι) {next : ι → Script Handle α} {next' : ι → Script Handle β}
      (h : ∀ x, Alike R (next x) (next' x)) : Alike R (.ask r next) (.ask r next')
  | left (event : Event) {next : Unit → Script Handle α} {t : Script Handle β} (h : Alike R (next ()) t) :
      Alike R (.ask (.tell event) next) t
  | right (event : Event) {s : Script Handle α} {next : Unit → Script Handle β} (h : Alike R s (next ())) :
      Alike R s (.ask (.tell event) next)

theorem alike_self {R : α → α → Prop} (h : ∀ a, R a a) : ∀ s : Script Handle α, Alike R s s
  | .done a => .done (h a)
  | .ask r next => .ask r fun x => alike_self h (next x)

namespace Alike

variable {R : α → β → Prop} {s : Script Handle α} {t : Script Handle β}

theorem swap (h : Alike R s t) : Alike (fun b a => R a b) t s := by
  induction h with
  | done h => exact .done h
  | ask r _ ih => exact .ask r ih
  | left event _ ih => exact .right event ih
  | right event _ ih => exact .left event ih

theorem mono {R' : α → β → Prop} (h : Alike R s t) (hR : ∀ a b, R a b → R' a b) : Alike R' s t := by
  induction h with
  | done h => exact .done (hR _ _ h)
  | ask r _ ih => exact .ask r ih
  | left event _ ih => exact .left event ih
  | right event _ ih => exact .right event ih

/-- Scripts that go on alike from matching ends are alike. -/
theorem bind {S : γ → δ → Prop} {f : α → Script Handle γ} {g : β → Script Handle δ} (h : Alike R s t)
    (hfg : ∀ a b, R a b → Alike S (f a) (g b)) : Alike S (s >>= f) (t >>= g) := by
  induction h with
  | done h => exact hfg _ _ h
  | ask r _ ih => exact .ask r ih
  | left event _ ih => exact .left event ih
  | right event _ ih => exact .right event ih

end Alike
end Script

namespace Machine

/-- The machines differ at most in what they were told of and in what was printed to them. -/
structure Like (m m' : Machine) : Prop where
  files : m.files = m'.files
  cwd : m.cwd = m'.cwd

theorem like_self (m : Machine) : m.Like m := ⟨rfl, rfl⟩

theorem like_printed (m : Machine) (pieces : List Bytes) : m.Like { m with printed := pieces } := ⟨rfl, rfl⟩

variable {m m' : Machine}

theorem Like.settle (h : m.Like m') (x : Except Failure FileSystem) :
    (m.settle x).1 = (m'.settle x).1 ∧ (m.settle x).2.Like (m'.settle x).2 := by
  cases x with
  | error failure => exact ⟨rfl, h⟩
  | ok files => exact ⟨rfl, rfl, h.cwd⟩

theorem Like.answer (h : m.Like m') (r : Request Location γ) :
    (m.answer r).1 = (m'.answer r).1 ∧ (m.answer r).2.Like (m'.answer r).2 := by
  cases r with
  | readFile p => exact ⟨by simp only [Machine.answer, h.files, h.cwd], h⟩
  | readDirectory p => exact ⟨by simp only [Machine.answer, h.files, h.cwd], h⟩
  | openEmptied p =>
    simp only [Machine.answer, h.files, h.cwd]
    cases m'.files.openEmptied m'.cwd p with
    | error failure => exact ⟨rfl, h⟩
    | ok opened => exact ⟨rfl, rfl, rfl⟩
  | writeAll loc bytes =>
    simp only [Machine.answer, h.files]
    exact h.settle _
  | removeFile p =>
    simp only [Machine.answer, h.files, h.cwd]
    exact h.settle _
  | createDirectories p =>
    simp only [Machine.answer, h.files, h.cwd]
    exact h.settle _
  | removeTree p =>
    simp only [Machine.answer, h.files, h.cwd]
    exact h.settle _
  | print bytes => exact ⟨rfl, h.files, h.cwd⟩
  | flush => exact ⟨rfl, h⟩
  | tell event => exact ⟨rfl, h.files, h.cwd⟩

/-- **A machine makes the same of scripts that ask alike.** -/
theorem run_alike {R : α → β → Prop} {s : Script Location α} {t : Script Location β} (h : s.Alike R t)
    (hm : m.Like m') : R (m.run s).1 (m'.run t).1 ∧ (m.run s).2.Like (m'.run t).2 := by
  induction h generalizing m m' with
  | done h => exact ⟨h, hm⟩
  | ask r _ ih =>
    obtain ⟨hanswer, hafter⟩ := hm.answer r
    simp only [run, ← hanswer]
    exact ih _ hafter
  -- an event that only one of the machines is told of leaves it like the other
  | left event _ ih => exact ih ⟨hm.files, hm.cwd⟩
  | right event _ ih => exact ih ⟨hm.files, hm.cwd⟩

/-- **What a machine was told of makes no difference**, nor what was printed to it. -/
theorem run_like (h : m.Like m') (s : Script Location α) :
    (m.run s).1 = (m'.run s).1 ∧ (m.run s).2.Like (m'.run s).2 :=
  run_alike (Script.alike_self (fun _ => rfl) s) h

end Machine
end FirmwareVars
