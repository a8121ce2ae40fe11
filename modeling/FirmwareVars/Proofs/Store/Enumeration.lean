import FirmwareVars.Proofs.EntryName.Order
import FirmwareVars.Proofs.EntryName.Codec
import FirmwareVars.Proofs.Host.Run
import Mathlib.Data.Set.List
/-!
# Enumeration

Listing a store is all or nothing.  Two loops can end it: the first entry that is no text, in the order of the
directory, or else the first text that spells no identity, in the order of the names.  Either way every entry before
the one that ends a loop was good, so a listing that comes back has one identity for each entry, and the order of the
directory is lost in the sorting (`list_all_or_nothing`).
-/
namespace FirmwareVars
namespace Store

open Machine (run_bind_of_ok run_bind_of_error)

/-! ## The two loops -/

theorem run_readable_texts (m : Machine) : ∀ ts : List Text, m.run (readable (ts.map Utf8.encode)).run = (.ok ts, m)
  | [] => rfl
  | t :: ts => by
    rw [List.map_cons, readable, Utf8.decode?_encode]
    exact run_bind_of_ok (run_readable_texts m ts) _

/-- The error of an entry that is no text. -/
def notTextError (raw : Bytes) : StoreError := .malformedEntry (.entry (Utf8.decodeLossy raw) .notText)

theorem run_readable_stops (m : Machine) {raw : Bytes} (h : Utf8.decode? raw = none) (rest : List Bytes) :
    ∀ ts : List Text, m.run (readable (ts.map Utf8.encode ++ raw :: rest)).run =
      (.error (notTextError raw), m.heard [.unreadableEntry (Utf8.decodeLossy raw)])
  | [] => by
    rw [List.map_nil, List.nil_append, readable, h]
    rfl
  | t :: ts => by
    rw [List.map_cons, List.cons_append, readable, Utf8.decode?_encode]
    exact run_bind_of_error (run_readable_stops m h rest ts) _

/-- The entries are texts throughout, or up to the first that is none. -/
theorem texts_or_stop : ∀ raws : List Bytes, (∃ ts : List Text, raws = ts.map Utf8.encode) ∨
    ∃ (ts : List Text) (raw : Bytes) (rest : List Bytes),
      raws = ts.map Utf8.encode ++ raw :: rest ∧ Utf8.decode? raw = none
  | [] => .inl ⟨[], rfl⟩
  | raw :: raws => by
    cases hd : Utf8.decode? raw with
    | none => exact .inr ⟨[], raw, raws, rfl, hd⟩
    | some t =>
      obtain rfl := Utf8.decode?_eq_some_iff.1 hd
      rcases texts_or_stop raws with ⟨ts, rfl⟩ | ⟨ts, raw', rest, rfl, hn⟩
      · exact .inl ⟨t :: ts, rfl⟩
      · exact .inr ⟨t :: ts, raw', rest, rfl, hn⟩

theorem run_identities_ok (m : Machine) : ∀ {entries : List Text} {ids : List Identity},
    entries.map EntryName.decode = ids.map .ok → m.run (identities entries).run = (.ok ids, m)
  | [], ids, h => by
    obtain rfl := List.map_eq_nil_iff.1 h.symm
    rfl
  | entry :: entries, [], h => by cases h
  | entry :: entries, i :: ids, h => by
    obtain ⟨hhead, htail⟩ := List.cons.inj h
    rw [identities, hhead]
    exact run_bind_of_ok (run_identities_ok m htail) _

theorem run_identities_stops (m : Machine) {bad : Text} {e : NamingError} (hbad : EntryName.decode bad = .error e)
    (rest : List Text) : ∀ {pre : List Text} {ids : List Identity}, pre.map EntryName.decode = ids.map .ok →
      m.run (identities (pre ++ bad :: rest)).run = (.error (.ofNaming e), m.heard [.malformedEntry bad e])
  | [], _, _ => by
    rw [List.nil_append, identities, hbad]
    rfl
  | entry :: pre, [], h => by cases h
  | entry :: pre, i :: ids, h => by
    obtain ⟨hhead, htail⟩ := List.cons.inj h
    rw [List.cons_append, identities, hhead]
    exact run_bind_of_error (run_identities_stops m hbad rest htail) _

/-- The entries spell identities throughout, or up to the first that spells none. -/
theorem identities_or_stop : ∀ entries : List Text,
    (∃ ids : List Identity, entries.map EntryName.decode = ids.map .ok) ∨
      ∃ (pre : List Text) (ids : List Identity) (bad : Text) (e : NamingError) (rest : List Text),
        entries = pre ++ bad :: rest ∧ pre.map EntryName.decode = ids.map .ok ∧ EntryName.decode bad = .error e
  | [] => .inl ⟨[], rfl⟩
  | entry :: entries => by
    cases hd : EntryName.decode entry with
    | error e => exact .inr ⟨[], [], entry, e, entries, rfl, rfl, hd⟩
    | ok i =>
      rcases identities_or_stop entries with ⟨ids, h⟩ | ⟨pre, ids, bad, e, rest, rfl, h, hbad⟩
      · exact .inl ⟨i :: ids, by rw [List.map_cons, List.map_cons, hd, h]⟩
      · exact .inr ⟨entry :: pre, i :: ids, bad, e, rest, rfl, by rw [List.map_cons, List.map_cons, hd, h], hbad⟩

/-! ## The whole listing -/

variable {m : Machine} {s : Store}

theorem run_readDirectory {raws : List Bytes} (h : m.files.list m.cwd s.root = .ok raws) :
    m.run (Operation.ask (.readDirectory s.root) (StoreError.ofFailure .list s.root)).run = (.ok raws, m) := by
  rw [Machine.run_ask]
  simp only [Machine.answer, h]

theorem run_list_refused {failure : Failure} (h : m.files.list m.cwd s.root = .error failure) :
    m.run s.list.run = (.error (.ofFailure .list s.root failure), m) := by
  refine run_bind_of_error ?_ _
  rw [Machine.run_ask]
  simp only [Machine.answer, h]

theorem run_list_ok {ts : List Text} {ids : List Identity}
    (h : m.files.list m.cwd s.root = .ok (ts.map Utf8.encode))
    (hids : (EntryName.sort ts).map EntryName.decode = ids.map .ok) :
    m.run s.list.run = (.ok ids, m.heard [.listedStore s.root ids.length]) := by
  rw [list, run_bind_of_ok (run_readDirectory h), run_bind_of_ok (run_readable_texts m ts),
    run_bind_of_ok (run_identities_ok m hids)]
  rfl

theorem run_list_malformed {ts pre rest : List Text} {ids : List Identity} {bad : Text} {e : NamingError}
    (h : m.files.list m.cwd s.root = .ok (ts.map Utf8.encode)) (hsort : EntryName.sort ts = pre ++ bad :: rest)
    (hids : pre.map EntryName.decode = ids.map .ok) (hbad : EntryName.decode bad = .error e) :
    m.run s.list.run = (.error (.malformedEntry e), m.heard [.malformedEntry bad e]) := by
  obtain ⟨fault, rfl⟩ := EntryName.entry_of_decode_eq_error hbad
  rw [list, run_bind_of_ok (run_readDirectory h), run_bind_of_ok (run_readable_texts m ts), hsort,
    run_bind_of_error (run_identities_stops m hbad rest hids)]
  rfl

theorem run_list_notText {ts : List Text} {raw : Bytes} {rest : List Bytes}
    (h : m.files.list m.cwd s.root = .ok (ts.map Utf8.encode ++ raw :: rest)) (hraw : Utf8.decode? raw = none) :
    m.run s.list.run = (.error (notTextError raw), m.heard [.unreadableEntry (Utf8.decodeLossy raw)]) := by
  rw [list, run_bind_of_ok (run_readDirectory h), run_bind_of_error (run_readable_stops m hraw rest ts)]

/-- **The three ways in which a listing ends.** -/
theorem run_list_cases {raws : List Bytes} (h : m.files.list m.cwd s.root = .ok raws) :
    (∃ (ts : List Text) (ids : List Identity), raws = ts.map Utf8.encode ∧
      (EntryName.sort ts).map EntryName.decode = ids.map .ok ∧ (m.run s.list.run).1 = .ok ids) ∨
    (∃ (ts pre rest : List Text) (ids : List Identity) (bad : Text) (e : NamingError), raws = ts.map Utf8.encode ∧
      EntryName.sort ts = pre ++ bad :: rest ∧ pre.map EntryName.decode = ids.map .ok ∧
      EntryName.decode bad = .error e ∧ (m.run s.list.run).1 = .error (.malformedEntry e)) ∨
    ∃ raw ∈ raws, Utf8.decode? raw = none ∧ (m.run s.list.run).1 = .error (notTextError raw) := by
  rcases texts_or_stop raws with ⟨ts, rfl⟩ | ⟨ts, raw, rest, rfl, hraw⟩
  · rcases identities_or_stop (EntryName.sort ts) with ⟨ids, hids⟩ | ⟨pre, ids, bad, e, rest, hsort, hids, hbad⟩
    · refine .inl ⟨ts, ids, rfl, hids, ?_⟩
      rw [run_list_ok h hids]
    · refine .inr (.inl ⟨ts, pre, rest, ids, bad, e, rfl, hsort, hids, hbad, ?_⟩)
      rw [run_list_malformed h hsort hids hbad]
  · refine .inr (.inr ⟨raw, List.mem_append_right _ List.mem_cons_self, hraw, ?_⟩)
    rw [run_list_notText h hraw]

/-- Texts that spell identities throughout spell one each. -/
theorem decode_of_mem {ts : List Text} {ids : List Identity} (h : ts.map EntryName.decode = ids.map .ok) {t : Text}
    (ht : t ∈ ts) : ∃ i, EntryName.decode t = .ok i := by
  have hm : EntryName.decode t ∈ ids.map Except.ok := h ▸ List.mem_map_of_mem ht
  obtain ⟨i, -, hi⟩ := List.mem_map.1 hm
  exact ⟨i, hi.symm⟩

/-- The identities of texts are those that some of the texts spells. -/
theorem mem_iff_decode {ts : List Text} {ids : List Identity} (h : ts.map EntryName.decode = ids.map .ok)
    {i : Identity} : i ∈ ids ↔ ∃ t ∈ ts, EntryName.decode t = .ok i := by
  have hok : i ∈ ids ↔ Except.ok i ∈ ids.map (Except.ok (ε := NamingError)) := by simp
  rw [hok, ← h, List.mem_map]

/-- The sorted texts of a directory depend on its entries and not on their order. -/
theorem sort_eq_of_map_perm {ts ts' : List Text} (h : (ts'.map Utf8.encode).Perm (ts.map Utf8.encode)) :
    EntryName.sort ts' = EntryName.sort ts := by
  have hback (l : List Text) : (l.map Utf8.encode).filterMap Utf8.decode? = l := by
    have hsome : Utf8.decode? ∘ Utf8.encode = some := funext Utf8.decode?_encode
    rw [List.filterMap_map, hsome, List.filterMap_some]
  have hp := h.filterMap Utf8.decode?
  rw [hback, hback] at hp
  exact EntryName.sort_eq_of_perm hp

/-- Entries that are all texts are the forms of a list of texts. -/
theorem exists_texts {raws : List Bytes} (h : ∀ raw ∈ raws, ∃ t, raw = Utf8.encode t) :
    ∃ ts : List Text, raws = ts.map Utf8.encode := by
  have hrange : raws ∈ Set.range (List.map Utf8.encode) := by
    rw [Set.range_list_map]
    intro raw hr
    obtain ⟨t, rfl⟩ := h raw hr
    exact ⟨t, rfl⟩
  obtain ⟨ts, rfl⟩ := hrange
  exact ⟨ts, rfl⟩

/-! ## What a listing says -/

section Listed

variable {raws : List Bytes} (h : m.files.list m.cwd s.root = .ok raws)
include h

/-- **A listing succeeds exactly when every entry spells an identity.** -/
theorem listed_iff : (∃ ids, (m.run s.list.run).1 = .ok ids) ↔
    ∀ raw ∈ raws, ∃ t i, raw = Utf8.encode t ∧ EntryName.decode t = .ok i := by
  constructor
  · rintro ⟨ids', hids'⟩
    rcases run_list_cases h with ⟨ts, ids, rfl, hids, -⟩ | ⟨_, _, _, _, _, _, -, -, -, -, hrun⟩ | ⟨_, -, -, hrun⟩
    · intro raw hr
      obtain ⟨t, ht, rfl⟩ := List.mem_map.1 hr
      obtain ⟨i, hi⟩ := decode_of_mem hids ((EntryName.sort_perm ts).mem_iff.2 ht)
      exact ⟨t, i, rfl, hi⟩
    · rw [hrun] at hids'
      cases hids'
    · rw [hrun] at hids'
      cases hids'
  · intro hall
    rcases run_list_cases h with ⟨_, ids, -, -, hrun⟩ | ⟨ts, pre, rest, _, bad, e, rfl, hcut, -, hbad, -⟩ |
      ⟨raw, hmem, hraw, -⟩
    · exact ⟨ids, hrun⟩
    · have hin : bad ∈ ts := by
        rw [← (EntryName.sort_perm ts).mem_iff, hcut]
        exact List.mem_append_right _ List.mem_cons_self
      obtain ⟨t, i, ht, hi⟩ := hall _ (List.mem_map_of_mem hin)
      rw [← Utf8.encode_injective ht, hbad] at hi
      cases hi
    · obtain ⟨t, -, ht, -⟩ := hall raw hmem
      exact absurd ⟨t, ht⟩ (Utf8.decode?_eq_none_iff.1 hraw)

/-- **What is listed are the identities of the sorted entries.** -/
theorem sorted_of_listed {ids : List Identity} (hok : (m.run s.list.run).1 = .ok ids) :
    ∃ ts : List Text, (ts.map Utf8.encode).Perm raws ∧ (ts.map Utf8.encode).Pairwise (· ≤ ·) ∧
      ts.map EntryName.decode = ids.map .ok := by
  rcases run_list_cases h with ⟨ts, ids', rfl, hids, hrun⟩ | ⟨_, _, _, _, _, _, -, -, -, -, hrun⟩ | ⟨_, -, -, hrun⟩
  · rw [hrun] at hok
    cases hok
    exact ⟨EntryName.sort ts, (EntryName.sort_perm ts).map _,
      (EntryName.pairwise_sort ts).map _ fun _ _ hab => hab, hids⟩
  · rw [hrun] at hok
    cases hok
  · rw [hrun] at hok
    cases hok

/-- **An error of a listing is about an entry.** -/
theorem entry_of_refused {e : StoreError} (he : (m.run s.list.run).1 = .error e) :
    ∃ entry fault, e = .malformedEntry (.entry entry fault) := by
  rcases run_list_cases h with ⟨_, _, -, -, hrun⟩ | ⟨_, _, _, _, bad, cause, -, -, -, hbad, hrun⟩ | ⟨raw, -, -, hrun⟩
  · rw [hrun] at he
    cases he
  · rw [hrun] at he
    cases he
    obtain ⟨fault, rfl⟩ := EntryName.entry_of_decode_eq_error hbad
    exact ⟨bad, fault, rfl⟩
  · rw [hrun] at he
    cases he
    exact ⟨_, _, rfl⟩

/-- **Of entries that are all texts, the least that spells no identity is reported.** -/
theorem least_of_refused (htexts : ∀ raw ∈ raws, ∃ t, raw = Utf8.encode t) {e : StoreError}
    (he : (m.run s.list.run).1 = .error e) :
    ∃ t cause, Utf8.encode t ∈ raws ∧ EntryName.decode t = .error cause ∧ e = .malformedEntry cause ∧
      ∀ u, Utf8.encode u ∈ raws → (∃ cause', EntryName.decode u = .error cause') →
        Utf8.encode t ≤ Utf8.encode u := by
  rcases run_list_cases h with ⟨_, _, -, -, hrun⟩ | ⟨ts, pre, rest, ids, bad, cause, rfl, hcut, hids, hbad, hrun⟩ |
    ⟨raw, hmem, hraw, -⟩
  · rw [hrun] at he
    cases he
  · rw [hrun] at he
    cases he
    have hsorted := EntryName.pairwise_sort ts
    have hmem (t : Text) : t ∈ ts ↔ t ∈ pre ∨ t ∈ bad :: rest := by
      rw [← (EntryName.sort_perm ts).mem_iff, hcut, List.mem_append]
    rw [hcut, List.pairwise_append] at hsorted
    refine ⟨bad, cause, List.mem_map_of_mem ((hmem bad).2 (.inr List.mem_cons_self)), hbad, rfl, fun u hu hu' => ?_⟩
    obtain ⟨u', hin, heq⟩ := List.mem_map.1 hu
    obtain rfl := Utf8.encode_injective heq
    obtain ⟨cause', hcause'⟩ := hu'
    rcases (hmem u').1 hin with hpre | hpost
    · -- what comes before it in order spells an identity
      obtain ⟨i, hi⟩ := decode_of_mem hids hpre
      rw [hi] at hcause'
      cases hcause'
    · rcases List.mem_cons.1 hpost with rfl | hrest
      · exact List.le_refl _
      · exact List.rel_of_pairwise_cons hsorted.2.1 hrest
  · exact absurd (htexts raw hmem) (Utf8.decode?_eq_none_iff.1 hraw)

/-- **An entry that is no text is reported before any that spells no identity.** -/
theorem refused_of_notText (hno : ∃ raw ∈ raws, ¬ ∃ t, raw = Utf8.encode t) :
    ∃ raw ∈ raws, (¬ ∃ t, raw = Utf8.encode t) ∧ (m.run s.list.run).1 = .error (notTextError raw) := by
  have hnone : ∀ ts : List Text, raws ≠ ts.map Utf8.encode := by
    rintro ts rfl
    obtain ⟨raw, hr, hraw⟩ := hno
    obtain ⟨t, -, rfl⟩ := List.mem_map.1 hr
    exact hraw ⟨t, rfl⟩
  rcases run_list_cases h with ⟨ts, _, hts, -, -⟩ | ⟨ts, _, _, _, _, _, hts, -, -, -, -⟩ | ⟨raw, hmem, hraw, hrun⟩
  · exact absurd hts (hnone ts)
  · exact absurd hts (hnone ts)
  · exact ⟨raw, hmem, Utf8.decode?_eq_none_iff.1 hraw, hrun⟩

/-- **Entries that are all texts are listed alike in any order.** -/
theorem run_list_eq_of_perm (htexts : ∀ raw ∈ raws, ∃ t, raw = Utf8.encode t) {m' : Machine} {raws' : List Bytes}
    (h' : m'.files.list m'.cwd s.root = .ok raws') (hp : raws'.Perm raws) :
    (m'.run s.list.run).1 = (m.run s.list.run).1 := by
  obtain ⟨ts, rfl⟩ := exists_texts htexts
  obtain ⟨ts', rfl⟩ := exists_texts fun raw hr => htexts raw (hp.mem_iff.1 hr)
  have hsort := sort_eq_of_map_perm hp
  rcases identities_or_stop (EntryName.sort ts) with ⟨ids, hids⟩ | ⟨pre, ids, bad, e, rest, hcut, hids, hbad⟩
  · rw [run_list_ok h hids, run_list_ok h' (hsort ▸ hids)]
  · rw [run_list_malformed h hcut hids hbad, run_list_malformed h' (hsort.trans hcut) hids hbad]

end Listed

/-- **Listing a store is all or nothing, and the order of its directory does not matter.**  It succeeds exactly when
every entry is a text that spells an identity, and then gives the identities of the entries in the order of their
bytes.  Otherwise it gives an error about an entry, and no identities.  If all entries are texts, listing them in any
other order has the same outcome, and an error is that of the least entry that spells no identity.  If some entry is
not a text, the error is that of such an entry. -/
theorem list_all_or_nothing (m : Machine) (s : Store) (raws : List Bytes)
    (h : m.files.list m.cwd s.root = .ok raws) :
    ((∃ ids, (m.run s.list.run).1 = .ok ids) ↔
      ∀ raw ∈ raws, ∃ t i, raw = Utf8.encode t ∧ EntryName.decode t = .ok i) ∧
    (∀ ids, (m.run s.list.run).1 = .ok ids → ∃ ts : List Text, (ts.map Utf8.encode).Perm raws ∧
      (ts.map Utf8.encode).Pairwise (· ≤ ·) ∧ ts.map EntryName.decode = ids.map .ok) ∧
    (∀ e, (m.run s.list.run).1 = .error e → ∃ entry fault, e = .malformedEntry (.entry entry fault)) ∧
    ((∀ raw ∈ raws, ∃ t, raw = Utf8.encode t) →
      (∀ (m' : Machine) (raws' : List Bytes), m'.files.list m'.cwd s.root = .ok raws' → raws'.Perm raws →
        (m'.run s.list.run).1 = (m.run s.list.run).1) ∧
      ∀ e, (m.run s.list.run).1 = .error e → ∃ t cause, Utf8.encode t ∈ raws ∧ EntryName.decode t = .error cause ∧
        e = .malformedEntry cause ∧
        ∀ u, Utf8.encode u ∈ raws → (∃ cause', EntryName.decode u = .error cause') →
          Utf8.encode t ≤ Utf8.encode u) ∧
    ((∃ raw ∈ raws, ¬ ∃ t, raw = Utf8.encode t) → ∃ raw ∈ raws, (¬ ∃ t, raw = Utf8.encode t) ∧
      (m.run s.list.run).1 = .error (.malformedEntry (.entry (Utf8.decodeLossy raw) .notText))) := by
  refine ⟨listed_iff h, fun ids => sorted_of_listed h, fun e => entry_of_refused h, fun htexts => ⟨?_, ?_⟩,
    refused_of_notText h⟩
  · intro m' raws' h' hp
    exact run_list_eq_of_perm h htexts h' hp
  · intro e he
    exact least_of_refused h htexts he

/-- A directory with two entries that spell no identity, the later of which is no text. -/
theorem list_malformed_before_notText :
    let m : Machine := ⟨⟨[([[0x64]], .directory), ([[0x64], [0x42]], .file []), ([[0x64], [0xFF]], .file [])]⟩, [], [], []⟩
    let s : Store := .atRoot ⟨[0x64]⟩
    m.files.list m.cwd s.root = .ok [[0x42], [0xFF]] ∧ EntryName.decode ['B'] = .error (.entry ['B'] (.fewSegments 1)) ∧
      (¬ ∃ ids, (m.run s.list.run).1 = .ok ids) ∧ ∃ raw ∈ [[0x42], [0xFF]], (¬ ∃ t, raw = Utf8.encode t) ∧
        (m.run s.list.run).1 = .error (.malformedEntry (.entry (Utf8.decodeLossy raw) .notText)) := by
  intro m s
  have hlist : m.files.list m.cwd s.root = .ok [[0x42], [0xFF]] := rfl
  have hno : ¬ ∃ t, [0xFF] = Utf8.encode t := Utf8.decode?_eq_none_iff.1 rfl
  obtain ⟨hiff, -, -, -, hstop⟩ := list_all_or_nothing m s _ hlist
  refine ⟨hlist, rfl, ?_, hstop ⟨[0xFF], by simp, hno⟩⟩
  intro hok
  obtain ⟨t, -, ht, -⟩ := hiff.1 hok [0xFF] (by simp)
  exact hno ⟨t, ht⟩

end Store
end FirmwareVars
