import FirmwareVars.Text
import Mathlib.Data.List.TakeWhile
/-!
# Pieces of a text

Cutting a text at a separator and joining the pieces are inverse to each other: joining undoes any cut
(`joinWith_splitOn`), and cutting undoes a join of pieces that are free of the separator (`splitOn_joinWith`).  A text
around a separator is cut on both sides of it alone (`splitOn_append`).  A separator of several characters still tells
the pieces apart that have not its first one (`joinWith_injective`).  A text is trimmed to nothing when it is all blanks
(`trim_eq_nil_iff`).

A character is a number below `0x110000` that is not a surrogate: every reader that makes a character from a number needs
this.
-/
namespace FirmwareVars

/-! ## Characters -/

namespace Character

theorem toNat_cases (c : Char) : c.toNat < 0xD800 ∨ 0xDFFF < c.toNat ∧ c.toNat < 0x110000 := c.valid

theorem toNat_ofNat {n : Nat} (h : n.isValidChar) : (Char.ofNat n).toNat = n := by
  have hn : n < 0x110000 := by
    unfold Nat.isValidChar at h
    omega
  rw [Char.ofNat, dif_pos h]
  rfl

end Character

/-! ## Pieces -/

namespace Text

variable {sep : Char}

theorem splitOn_cons_sep (t : Text) : splitOn sep (sep :: t) = [] :: splitOn sep t := by
  rw [splitOn, if_pos rfl]

theorem splitOn_ne_nil : ∀ t : Text, splitOn sep t ≠ []
  | [] => List.cons_ne_nil _ _
  | c :: t => by
    rw [splitOn]
    split
    · exact List.cons_ne_nil _ _
    · split <;> exact List.cons_ne_nil _ _

/-- Another character belongs to the first piece. -/
theorem splitOn_cons {c : Char} (hc : c ≠ sep) (t : Text) :
    ∃ piece pieces, splitOn sep t = piece :: pieces ∧ splitOn sep (c :: t) = (c :: piece) :: pieces := by
  cases ht : splitOn sep t with
  | nil => exact absurd ht (splitOn_ne_nil t)
  | cons piece pieces =>
    refine ⟨piece, pieces, rfl, ?_⟩
    rw [splitOn, if_neg hc, ht]

/-- **A separator cuts a text in two.** -/
theorem splitOn_append : ∀ a b : Text, splitOn sep (a ++ sep :: b) = splitOn sep a ++ splitOn sep b
  | [], b => splitOn_cons_sep b
  | c :: a, b => by
    by_cases hc : c = sep
    · rw [hc, List.cons_append, splitOn_cons_sep, splitOn_cons_sep, splitOn_append a b]
      rfl
    · obtain ⟨piece, pieces, ha, hca⟩ := splitOn_cons hc a
      obtain ⟨piece', pieces', hab, hcab⟩ := splitOn_cons hc (a ++ sep :: b)
      rw [splitOn_append a b, ha] at hab
      cases hab
      rw [List.cons_append, hcab, hca]
      rfl

theorem splitOn_of_notMem : ∀ {t : Text}, sep ∉ t → splitOn sep t = [t]
  | [], _ => rfl
  | c :: t, h => by
    rw [List.mem_cons, not_or] at h
    rw [splitOn, if_neg (Ne.symm h.1), splitOn_of_notMem h.2]

/-- **There is one piece more than there are separators.** -/
theorem length_splitOn : ∀ t : Text, (splitOn sep t).length = t.count sep + 1
  | [] => rfl
  | c :: t => by
    have ih := length_splitOn t
    by_cases hc : c = sep
    · rw [hc, splitOn_cons_sep, List.length_cons, ih, List.count_cons_self]
    · obtain ⟨piece, pieces, ht, hct⟩ := splitOn_cons hc t
      rw [hct, List.count_cons_of_ne hc, ← ih, ht, List.length_cons, List.length_cons]

theorem joinWith_cons_cons (s p q : Text) (ps : List Text) :
    joinWith s (p :: q :: ps) = p ++ s ++ joinWith s (q :: ps) := rfl

theorem joinWith_cons (s p : Text) {ps : List Text} (h : ps ≠ []) : joinWith s (p :: ps) = p ++ s ++ joinWith s ps := by
  cases ps with
  | nil => exact absurd rfl h
  | cons q ps => rfl

theorem joinWith_append (s : Text) {qs : List Text} (hq : qs ≠ []) :
    ∀ {ps : List Text}, ps ≠ [] → joinWith s (ps ++ qs) = joinWith s ps ++ s ++ joinWith s qs
  | [], h => absurd rfl h
  | [p], _ => joinWith_cons s p hq
  | p :: q :: ps, _ => by
    have ih := joinWith_append s hq (List.cons_ne_nil q ps)
    rw [List.cons_append] at ih
    simp only [List.cons_append, joinWith_cons_cons, ih, List.append_assoc]

theorem map_joinWith (f : Char → Char) (s : Text) :
    ∀ ps : List Text, (joinWith s ps).map f = joinWith (s.map f) (ps.map (List.map f))
  | [] => rfl
  | [_] => rfl
  | p :: q :: ps => by
    rw [joinWith_cons_cons, List.map_append, List.map_append, map_joinWith f s (q :: ps)]
    rfl

/-- **Joining undoes a cut.** -/
theorem joinWith_splitOn : ∀ t : Text, joinWith [sep] (splitOn sep t) = t
  | [] => rfl
  | c :: t => by
    have ih := joinWith_splitOn t
    by_cases hc : c = sep
    · rw [hc, splitOn_cons_sep, joinWith_cons _ _ (splitOn_ne_nil t), ih]
      rfl
    · obtain ⟨piece, pieces, ht, hct⟩ := splitOn_cons hc t
      rw [ht] at ih
      rw [hct]
      cases pieces with
      | nil => exact congrArg (c :: ·) ih
      | cons q pieces => exact congrArg (c :: ·) ih

/-- **A cut undoes a join of pieces without the separator.** -/
theorem splitOn_joinWith : ∀ {ps : List Text}, ps ≠ [] → (∀ p ∈ ps, sep ∉ p) → splitOn sep (joinWith [sep] ps) = ps
  | [], h, _ => absurd rfl h
  | [p], _, hps => splitOn_of_notMem (hps p List.mem_cons_self)
  | p :: q :: ps, _, hps => by
    have ih := splitOn_joinWith (List.cons_ne_nil q ps) fun r hr => hps r (List.mem_cons_of_mem _ hr)
    rw [joinWith_cons_cons, List.append_assoc, List.singleton_append, splitOn_append, ih,
      splitOn_of_notMem (hps p List.mem_cons_self)]
    rfl

theorem mem_joinWith {s : Text} {c : Char} : ∀ {ps : List Text}, c ∈ joinWith s ps → c ∈ s ∨ ∃ p ∈ ps, c ∈ p
  | [], h => absurd h List.not_mem_nil
  | [p], h => .inr ⟨p, List.mem_cons_self, h⟩
  | p :: q :: ps, h => by
    rw [joinWith_cons_cons, List.mem_append, List.mem_append] at h
    rcases h with (hp | hs) | hrest
    · exact .inr ⟨p, List.mem_cons_self, hp⟩
    · exact .inl hs
    · rcases mem_joinWith hrest with hs | ⟨r, hr, hc⟩
      · exact .inl hs
      · exact .inr ⟨r, List.mem_cons_of_mem _ hr, hc⟩

/-- A text up to the first separator, and the text after it. -/
theorem append_cons_inj {p q t u : Text} (hp : sep ∉ p) (hq : sep ∉ q) (h : p ++ sep :: t = q ++ sep :: u) :
    p = q ∧ t = u := by
  have hpieces := congrArg (splitOn sep) h
  rw [splitOn_append, splitOn_append, splitOn_of_notMem hp, splitOn_of_notMem hq] at hpieces
  obtain rfl : p = q := (List.cons.inj hpieces).1
  exact ⟨rfl, (List.cons.inj (List.append_cancel_left h)).2⟩

theorem sep_mem_joinWith (s p q : Text) (ps : List Text) : sep ∈ joinWith (sep :: s) (p :: q :: ps) := by
  rw [joinWith_cons_cons]
  simp

/-- **Pieces are told apart by their join**, when none has the character that a separator begins with. -/
theorem joinWith_injective {s : Text} : ∀ {ps qs : List Text}, ps ≠ [] → qs ≠ [] → (∀ p ∈ ps, sep ∉ p) →
    (∀ q ∈ qs, sep ∉ q) → joinWith (sep :: s) ps = joinWith (sep :: s) qs → ps = qs
  | [], _, h, _, _, _, _ => absurd rfl h
  | _, [], _, h, _, _, _ => absurd rfl h
  | [p], [q], _, _, _, _, h => congrArg (fun p => [p]) h
  | [p], q :: q' :: qs, _, _, hp, _, h => by
    have hjoin : joinWith (sep :: s) (q :: q' :: qs) = p := h.symm
    exact absurd (hjoin ▸ sep_mem_joinWith s q q' qs) (hp p List.mem_cons_self)
  | p :: p' :: ps, [q], _, _, _, hq, h => by
    have hjoin : joinWith (sep :: s) (p :: p' :: ps) = q := h
    exact absurd (hjoin ▸ sep_mem_joinWith s p p' ps) (hq q List.mem_cons_self)
  | p :: p' :: ps, q :: q' :: qs, _, _, hp, hq, h => by
    rw [List.forall_mem_cons] at hp hq
    rw [joinWith_cons_cons, joinWith_cons_cons, List.append_assoc, List.append_assoc] at h
    obtain ⟨rfl, hrest⟩ := append_cons_inj hp.1 hq.1 h
    have ih := joinWith_injective (List.cons_ne_nil p' ps) (List.cons_ne_nil q' qs) hp.2 hq.2
      (List.append_cancel_left hrest)
    rw [ih]

/-! ## Blanks -/

theorem trim_of_notBlank {t : Text} (h : ∀ c ∈ t, isBlank c = false) : trim t = t := by
  have hdrop {u : Text} (hu : ∀ c ∈ u, isBlank c = false) : u.dropWhile isBlank = u := by
    cases u with
    | nil => rfl
    | cons c u => rw [List.dropWhile_cons, hu c List.mem_cons_self, if_neg Bool.false_ne_true]
  have hreverse : ∀ c ∈ t.reverse, isBlank c = false := fun c hc => h c (List.mem_reverse.1 hc)
  rw [trim, trimLeft, hdrop h, trimRight, hdrop hreverse, List.reverse_reverse]

/-- **Blanks alone are trimmed to nothing**, and nothing else is. -/
theorem trim_eq_nil_iff {t : Text} : trim t = [] ↔ ∀ c ∈ t, isBlank c = true := by
  rw [trim, trimRight, List.reverse_eq_nil_iff, List.dropWhile_eq_nil_iff]
  constructor
  · intro h c hc
    rw [← List.takeWhile_append_dropWhile (p := isBlank) (l := t), List.mem_append] at hc
    rcases hc with hfront | hrest
    · exact List.mem_takeWhile_imp hfront
    · exact h c (List.mem_reverse.2 hrest)
  · exact fun h c hc => h c ((List.dropWhile_suffix isBlank).subset (List.mem_reverse.1 hc))

end Text
end FirmwareVars
