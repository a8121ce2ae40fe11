import FirmwareVars.Host.Path
/-!
# Paths of entries

The steps along the path of a directory's entry are the steps along the path of the directory and then the entry
(`segments_join`), whether or not a separator ends the path of the directory, and also when that path is empty.
-/
namespace FirmwareVars
namespace Path

/-! ## Segments -/

theorem segments_separator_cons : ∀ bs : Bytes, segments (separator :: bs) = segments bs
  | [] => rfl
  | b :: bs => by rw [segments, if_pos rfl]

theorem segments_cons_separator {b : UInt8} (hb : b ≠ separator) (bs : Bytes) :
    segments (b :: separator :: bs) = [b] :: segments bs := by
  rw [segments, if_neg hb, if_pos rfl, segments_separator_cons]

/-- The first segment goes on for as long as no separator comes. -/
theorem segments_cons_cons {b c : UInt8} (hb : b ≠ separator) (hc : c ≠ separator) {bs s : Bytes} {rest : List Bytes}
    (h : segments (c :: bs) = s :: rest) : segments (b :: c :: bs) = (b :: s) :: rest := by
  rw [segments, if_neg hb, if_neg hc, h]

theorem segments_cons_eq {b : UInt8} (hb : b ≠ separator) : ∀ bs : Bytes, ∃ s rest, segments (b :: bs) = s :: rest
  | [] => ⟨[b], [], by rw [segments, if_neg hb]⟩
  | c :: bs => by
    by_cases hc : c = separator
    · exact ⟨[b], segments bs, by rw [hc, segments_cons_separator hb]⟩
    · obtain ⟨s, rest, h⟩ := segments_cons_eq hc bs
      exact ⟨b :: s, rest, segments_cons_cons hb hc h⟩

/-- **A separator parts the segments before it from those behind it.** -/
theorem eq_separator_of_segments : ∀ {bs : Bytes}, segments bs = [] → ∀ b ∈ bs, b = separator
  | [], _, b, hb => by cases hb
  | c :: bs, h, b, hb => by
    by_cases hc : c = separator
    · rw [hc, segments_separator_cons] at h
      rcases List.mem_cons.1 hb with rfl | hb
      · exact hc
      · exact eq_separator_of_segments h b hb
    · obtain ⟨s, rest, hs⟩ := segments_cons_eq hc bs
      rw [hs] at h
      cases h

theorem components_ne_nil {p : Path} (hp : p.bytes ≠ []) : p.components ≠ [] := by
  rw [components]
  split
  next => exact List.concat_ne_nil _ _
  next ho =>
    intro h
    refine ho ?_
    rw [endsOpen, List.getLast?_eq_some_getLast hp, eq_separator_of_segments h _ (List.getLast_mem hp)]
    rfl

theorem segments_append_separator (b : Bytes) : ∀ a : Bytes, segments (a ++ separator :: b) = segments a ++ segments b
  | [] => segments_separator_cons b
  | x :: a => by
    have ih := segments_append_separator b a
    by_cases hx : x = separator
    · rw [hx, List.cons_append, segments_separator_cons, segments_separator_cons, ih]
    · cases a with
      | nil =>
        rw [List.cons_append, List.nil_append, segments_cons_separator hx, segments, if_neg hx]
        rfl
      | cons y a =>
        by_cases hy : y = separator
        · subst hy
          rw [List.cons_append, segments_separator_cons, segments_separator_cons] at ih
          rw [List.cons_append, List.cons_append, segments_cons_separator hx, segments_cons_separator hx, ih,
            List.cons_append]
        · obtain ⟨s, rest, hs⟩ := segments_cons_eq hy a
          rw [hs] at ih
          rw [segments_cons_cons hx hy hs]
          exact segments_cons_cons hx hy ih

theorem segments_of_notMem : ∀ {c : Bytes}, c ≠ [] → separator ∉ c → segments c = [c]
  | [], h, _ => absurd rfl h
  | [b], _, hs => by
    rw [segments, if_neg fun hb : b = separator => hs (hb ▸ List.mem_cons_self)]
  | b :: c :: bs, _, hs => by
    have ih := segments_of_notMem (List.cons_ne_nil c bs) fun hm => hs (List.mem_cons_of_mem b hm)
    exact segments_cons_cons (fun hb => hs (hb ▸ List.mem_cons_self))
      (fun hc => hs (hc ▸ List.mem_cons_of_mem b List.mem_cons_self)) ih

/-! ## Entries of a directory -/

section Entry

variable {p : Path} {c : Bytes} (hc : c ≠ []) (hs : separator ∉ c)
include hs

theorem not_isAbsolute : (Path.mk c).isAbsolute = false := by
  cases c with
  | nil => rfl
  | cons b bs =>
    rw [isAbsolute, List.head?_cons, beq_eq_false_iff_ne]
    intro hb
    exact hs (Option.some.inj hb ▸ List.mem_cons_self)

/-- **A path goes on to an entry behind one separator**, or behind none if it is empty or ends in one. -/
theorem bytes_join : (p.join ⟨c⟩).bytes =
    p.bytes ++ (if p.bytes = [] ∨ p.endsOpen then [] else [separator]) ++ c := by
  rw [join, not_isAbsolute hs, if_neg Bool.false_ne_true]
  by_cases h : p.bytes = [] ∨ p.endsOpen = true
  · rw [if_pos h, if_pos h, List.append_nil]
  · rw [if_neg h, if_neg h]

theorem length_join : (p.join ⟨c⟩).bytes.length =
    if p.bytes = [] ∨ p.endsOpen then p.bytes.length + c.length else p.bytes.length + 1 + c.length := by
  rw [bytes_join hs]
  split
  · rw [List.append_nil, List.length_append]
  · simp only [List.length_append, List.length_singleton]

theorem join_of_nil (hp : p.bytes = []) : (p.join ⟨c⟩).bytes = c := by
  rw [bytes_join hs, if_pos (.inl hp), hp]
  rfl

/-- Where the path is not empty, exactly one separator stands before the entry. -/
theorem exists_join (hp : p.bytes ≠ []) : ∃ q, (p.bytes = q ∨ p.bytes = q ++ [separator]) ∧
    (p.join ⟨c⟩).bytes = q ++ separator :: c := by
  rw [bytes_join hs]
  by_cases ho : p.endsOpen = true
  · rw [if_pos (.inr ho)]
    obtain ⟨q, hq⟩ := List.getLast?_eq_some_iff.1 (beq_iff_eq.1 ho)
    exact ⟨q, .inr hq, by simp [hq]⟩
  · rw [if_neg (not_or.2 ⟨hp, ho⟩)]
    exact ⟨p.bytes, .inl rfl, by simp⟩

theorem isAbsolute_join : (p.join ⟨c⟩).isAbsolute = p.isAbsolute := by
  by_cases hp : p.bytes = []
  · have hc := not_isAbsolute hs
    rw [isAbsolute] at hc ⊢
    rw [join_of_nil hs hp, hc, isAbsolute, hp]
    rfl
  obtain ⟨q, hq, hj⟩ := exists_join hs hp
  rw [isAbsolute, isAbsolute, hj]
  rcases hq with hq | hq
  · rw [← hq, List.head?_append, List.head?_eq_some_head hp, Option.some_or]
  · rw [hq]
    cases q <;> rfl

theorem mem_join {b : UInt8} (hb : b ≠ separator) : b ∈ (p.join ⟨c⟩).bytes ↔ b ∈ p.bytes ∨ b ∈ c := by
  rw [bytes_join hs]
  split <;> simp [hb]

include hc

/-- **The steps to an entry are the steps to the directory and the entry.** -/
theorem segments_join : segments (p.join ⟨c⟩).bytes = segments p.bytes ++ [c] := by
  by_cases hp : p.bytes = []
  · rw [join_of_nil hs hp, hp, segments_of_notMem hc hs]
    rfl
  obtain ⟨q, hq, hj⟩ := exists_join hs hp
  rw [hj, segments_append_separator, segments_of_notMem hc hs]
  rcases hq with hq | hq
  · rw [hq]
  · rw [hq, segments_append_separator, segments, List.append_nil]

theorem endsOpen_join : (p.join ⟨c⟩).endsOpen = false := by
  obtain ⟨init, b, rfl⟩ : ∃ init b, c = init ++ [b] :=
    ⟨c.dropLast, c.getLast hc, (List.dropLast_concat_getLast hc).symm⟩
  rw [endsOpen, bytes_join hs, beq_eq_false_iff_ne, ← List.append_assoc, List.getLast?_concat]
  intro heq
  exact hs (Option.some.inj heq ▸ List.mem_append_right _ List.mem_cons_self)

theorem components_join : (p.join ⟨c⟩).components = segments p.bytes ++ [c] := by
  rw [components, endsOpen_join hc hs, if_neg Bool.false_ne_true, segments_join hc hs]

end Entry

end Path
end FirmwareVars
