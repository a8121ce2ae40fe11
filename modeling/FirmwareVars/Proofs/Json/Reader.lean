import FirmwareVars.Json.Reader
import FirmwareVars.Proofs.Numeral
import FirmwareVars.Proofs.Text
import FirmwareVars.Text.Quoted
import Mathlib.Data.List.TakeWhile
/-!
# JSON, there and back

A reader takes back what was written at the front of a text, whatever stands behind it.  For strings that is
`readText_quote`: each character is written as itself, by a letter or by its number (`escape_cases`), and all three are
read as that character (`readString_escape`).  For arrays it is `readArray_joinWith`, over any reader of items that takes
back its own items.  Blanks in front of a value do not count.
-/
namespace FirmwareVars
namespace Json

/-! ## Blanks -/

/-- Blanks only: what a layout may put between the parts of a value. -/
def IsGap (t : Text) : Prop := ∀ c ∈ t, isBlank c = true

theorem isGap_nil : IsGap [] := fun _ h => absurd h List.not_mem_nil

theorem isGap_replicate (n : Nat) : IsGap (List.replicate n ' ') := by
  intro c hc
  rw [List.eq_of_mem_replicate hc]
  rfl

theorem IsGap.skipBlank_append {gap : Text} (h : IsGap gap) (t : Text) : skipBlank (gap ++ t) = skipBlank t :=
  List.dropWhile_append_of_pos h

theorem IsGap.skipBlank_eq_nil {gap : Text} (h : IsGap gap) : skipBlank gap = [] :=
  List.dropWhile_eq_nil_iff.2 h

theorem skipBlank_cons {c : Char} (h : isBlank c = false) (t : Text) : skipBlank (c :: t) = c :: t :=
  List.dropWhile_cons_of_neg (by simp [h])

theorem IsGap.skipBlank_append_cons {gap : Text} (h : IsGap gap) {c : Char} (hc : isBlank c = false) (t : Text) :
    skipBlank (gap ++ c :: t) = c :: t := by
  rw [h.skipBlank_append, skipBlank_cons hc]

/-! ## Strings -/

/-- **A character is written by a letter that stands for it, by its number, or as itself.** -/
theorem escape_cases (c : Char) :
    (∃ letter, shortEscape? letter = some c ∧ escape c = ['\\', letter]) ∨
    (c.toNat < 0x20 ∧ escape c = ['\\', 'u'] ++ Numeral.spellFixed 16 4 c.toNat) ∨
    (c ≠ '\x22' ∧ c ≠ '\\' ∧ ¬ c.toNat < 0x20 ∧ escape c = [c]) := by
  by_cases hc : c = '\x22' ∨ c = '\\' ∨ c = '\x08' ∨ c = '\x0c' ∨ c = '\n' ∨ c = '\r' ∨ c = '\t'
  · left
    rcases hc with rfl | rfl | rfl | rfl | rfl | rfl | rfl
    · exact ⟨'\x22', rfl, rfl⟩
    · exact ⟨'\\', rfl, rfl⟩
    · exact ⟨'b', rfl, rfl⟩
    · exact ⟨'f', rfl, rfl⟩
    · exact ⟨'n', rfl, rfl⟩
    · exact ⟨'r', rfl, rfl⟩
    · exact ⟨'t', rfl, rfl⟩
  · simp only [not_or] at hc
    obtain ⟨hquote, hback, hbs, hff, hnl, hcr, htab⟩ := hc
    unfold escape
    rw [if_neg hquote, if_neg hback, if_neg hbs, if_neg hff, if_neg hnl, if_neg hcr, if_neg htab]
    by_cases hlow : c.toNat < 0x20
    · exact .inr (.inl ⟨hlow, if_pos hlow⟩)
    · exact .inr (.inr ⟨hquote, hback, hlow, if_neg hlow⟩)

theorem readUnit_spellFixed {n : Nat} (hn : n < 16 ^ 4) (t : Text) :
    readUnit (Numeral.spellFixed 16 4 n ++ t) = .ok (n, t) := by
  have hread : Numeral.read? 16 (Numeral.spellFixed 16 4 n) = some n := by
    rw [Numeral.read?_spellFixed (by decide) (by decide) (by decide), Nat.mod_eq_of_lt hn]
  simp only [Numeral.spellFixed, List.nil_append, List.cons_append] at hread ⊢
  rw [readUnit, hread]

theorem readEscape_letter {letter c : Char} (h : shortEscape? letter = some c) (t : Text) :
    readEscape (letter :: t) = .ok (c, t) := by
  rw [readEscape, h]

theorem readEscape_number {c : Char} (hc : c.toNat < 0x20) (t : Text) :
    readEscape ('u' :: (Numeral.spellFixed 16 4 c.toNat ++ t)) = .ok (c, t) := by
  have hnone : shortEscape? 'u' = none := by decide
  have hlow : ¬ (0xDC00 ≤ c.toNat ∧ c.toNat < 0xE000) := by omega
  have hhigh : ¬ (0xD800 ≤ c.toNat ∧ c.toNat < 0xDC00) := by omega
  rw [readEscape, hnone]
  simp only [if_true, readNumbered]
  rw [readUnit_spellFixed (by omega)]
  simp only [if_neg hlow, if_neg hhigh, Char.ofNat_toNat]

theorem readString_backslash {t rest : Text} {c : Char} (h : readEscape t = .ok (c, rest)) :
    readString ('\\' :: t) = (readString rest).map fun p => (c :: p.1, p.2) := by
  rw [readString, if_neg (by decide), if_pos rfl]
  split
  next d after h' =>
    rw [h] at h'
    cases h'
    cases readString rest <;> rfl
  next fault h' =>
    rw [h] at h'
    cases h'

/-- **A character is read back from what was written for it.** -/
theorem readString_escape (c : Char) (t : Text) :
    readString (escape c ++ t) = (readString t).map fun p => (c :: p.1, p.2) := by
  rcases escape_cases c with ⟨letter, hletter, hc⟩ | ⟨hlow, hc⟩ | ⟨hquote, hback, hlow, hc⟩
  · rw [hc]
    exact readString_backslash (readEscape_letter hletter t)
  · rw [hc]
    exact readString_backslash (readEscape_number hlow t)
  · rw [hc, List.singleton_append, readString, if_neg hquote, if_neg hback, if_neg hlow]
    cases readString t <;> rfl

theorem readString_flatMap_escape : ∀ t rest : Text, readString (t.flatMap escape ++ '\x22' :: rest) = .ok (t, rest)
  | [], rest => by
    rw [List.flatMap_nil, List.nil_append, readString, if_pos rfl]
  | c :: t, rest => by
    rw [List.flatMap_cons, List.append_assoc, readString_escape, readString_flatMap_escape t rest]
    rfl

theorem quote_append (t rest : Text) : quote t ++ rest = '\x22' :: (t.flatMap escape ++ '\x22' :: rest) := by
  simp [quote]

/-- **A text is read back from its quotation.** -/
theorem readText_quote {gap : Text} (h : IsGap gap) (t rest : Text) : readText (gap ++ (quote t ++ rest)) = .ok (t, rest) := by
  rw [readText, quote_append, h.skipBlank_append_cons (by decide)]
  exact readString_flatMap_escape t rest

/-! ## Arrays -/

/-- Begins like an item of an array: neither with a blank nor with the bracket that ends the array. -/
def BeginsItem (t : Text) : Prop := ∃ c u, t = c :: u ∧ isBlank c = false ∧ c ≠ ']'

theorem BeginsItem.append {t : Text} (h : BeginsItem t) (u : Text) : BeginsItem (t ++ u) := by
  obtain ⟨c, v, rfl, hc⟩ := h
  exact ⟨c, v ++ u, rfl, hc⟩

theorem BeginsItem.skipBlank_append {t gap : Text} (h : BeginsItem t) (hgap : IsGap gap) : skipBlank (gap ++ t) = t := by
  obtain ⟨c, u, rfl, hblank, -⟩ := h
  exact hgap.skipBlank_append_cons hblank u

section Items

variable {α : Type} {item : Reader α} {fuel : Nat} {first : Bool} {gap t after rest : Text} {a : α} {as : List α}

theorem readItems_close (hgap : IsGap gap) : readItems item (fuel + 1) first (gap ++ ']' :: rest) = .ok ([], rest) := by
  have hskip : skipBlank (gap ++ ']' :: rest) = ']' :: rest := hgap.skipBlank_append_cons (by decide) rest
  simp only [readItems, hskip, if_true]

theorem readItems_first (hgap : IsGap gap) (ht : BeginsItem t) (hitem : item t = .ok (a, after))
    (hrest : readItems item fuel false after = .ok (as, rest)) :
    readItems item (fuel + 1) true (gap ++ t) = .ok (a :: as, rest) := by
  have hskip := ht.skipBlank_append hgap
  obtain ⟨c, u, rfl, hblank, hbracket⟩ := ht
  simp only [readItems, hskip, if_neg hbracket, if_true, hitem]
  simp only [bind, Except.bind, hrest]

theorem readItems_comma (hgap : IsGap gap) (ht : BeginsItem t) (hitem : item t = .ok (a, after))
    (hrest : readItems item fuel false after = .ok (as, rest)) :
    readItems item (fuel + 1) false (',' :: (gap ++ t)) = .ok (a :: as, rest) := by
  have hcomma : skipBlank (',' :: (gap ++ t)) = ',' :: (gap ++ t) := skipBlank_cons (by decide) _
  have hskip := ht.skipBlank_append hgap
  obtain ⟨c, u, rfl, hblank, hbracket⟩ := ht
  simp only [readItems, hcomma, hskip, if_neg (show ',' ≠ ']' by decide), Bool.false_eq_true, if_false, if_true]
  split
  next h => cases h
  next h => exact absurd (List.cons.inj h).1 hbracket
  next => simp only [hitem, bind, Except.bind, hrest]

/-- The items of an array after the first, each with a comma and a gap before it. -/
def followers (gap : Text) (write : α → Text) (as : List α) : Text := as.flatMap fun a => ',' :: (gap ++ write a)

theorem joinWith_map_cons (gap : Text) (write : α → Text) : ∀ (a : α) (as : List α),
    Text.joinWith [','] ((a :: as).map fun a => gap ++ write a) = gap ++ (write a ++ followers gap write as)
  | a, [] => by simp [Text.joinWith, followers]
  | a, b :: as => by
    have ih := joinWith_map_cons gap write b as
    have hne : ((b :: as).map fun a => gap ++ write a) ≠ [] := List.cons_ne_nil _ _
    rw [List.map_cons, Text.joinWith_cons _ _ hne, ih]
    simp [followers]

theorem length_le_length_followers (gap : Text) (write : α → Text) (as : List α) :
    as.length ≤ (followers gap write as).length := by
  induction as with
  | nil => exact Nat.le_refl 0
  | cons a as ih =>
    simp only [followers, List.flatMap_cons, List.length_append, List.length_cons] at ih ⊢
    omega

variable {write : α → Text} {close : Text} (hread : ∀ a rest, item (write a ++ rest) = .ok (a, rest))
  (hbegins : ∀ a, BeginsItem (write a)) (hgap : IsGap gap) (hclose : IsGap close)
include hread hbegins hgap hclose

/-- **The items after the first are read back**, given a step for each of them and one for the bracket. -/
theorem readItems_followers (rest : Text) : ∀ {fuel : Nat} {as : List α}, as.length < fuel →
    readItems item fuel false (followers gap write as ++ (close ++ ']' :: rest)) = .ok (as, rest)
  | 0, _, h => by omega
  | fuel + 1, [], _ => readItems_close hclose
  | fuel + 1, a :: as, h => by
    have ih := readItems_followers rest (Nat.lt_of_succ_lt_succ h)
    have hitem := hread a (followers gap write as ++ (close ++ ']' :: rest))
    have hstep := readItems_comma hgap ((hbegins a).append _) hitem ih
    simpa [followers] using hstep

/-- **An array of items is read back**, in any layout. -/
theorem readArray_joinWith (a : α) (as : List α) (rest : Text) :
    readArray item ('[' :: (Text.joinWith [','] ((a :: as).map fun a => gap ++ write a) ++ (close ++ ']' :: rest))) =
      .ok (a :: as, rest) := by
  have hitem := hread a (followers gap write as ++ (close ++ ']' :: rest))
  have hlength := length_le_length_followers gap write as
  have hskip : ∀ t : Text, skipBlank ('[' :: t) = '[' :: t := skipBlank_cons (by decide)
  simp only [readArray, hskip, joinWith_map_cons, List.append_assoc]
  refine readItems_first hgap ((hbegins a).append _) hitem ?_
  refine readItems_followers hread hbegins hgap hclose rest ?_
  simp only [List.length_append, List.length_cons]
  omega

end Items

theorem readArray_close {α : Type} {item : Reader α} (rest : Text) : readArray item ('[' :: ']' :: rest) = .ok ([], rest) := by
  have hskip : skipBlank ('[' :: ']' :: rest) = '[' :: ']' :: rest := skipBlank_cons (by decide) _
  simp only [readArray, hskip]
  exact readItems_close isGap_nil

/-! ## Documents -/

theorem readDocument_of_gap {α : Type} {value : Reader α} {t gap : Text} {a : α} (h : value t = .ok (a, gap))
    (hgap : IsGap gap) : readDocument value t = .ok a := by
  rw [readDocument, h]
  simp only [hgap.skipBlank_eq_nil, if_true]

end Json
end FirmwareVars
