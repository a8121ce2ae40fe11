import FirmwareVars.Proofs.Text
import FirmwareVars.Text.Utf8
/-!
# UTF-8, both ways

Reading accepts exactly what writing produces: `decode? bs = some t` says that `bs` is `encode t`
(`decode?_eq_some_iff`).  So a text has one form in bytes, and bytes are the form of at most one text.

One direction follows the bytes of a character through the machine, one case for each length (`piecesFrom_encodeChar`).
For the other, a character that has begun is `Begun` when every byte within its bounds leads on towards the form of some
character; what a first byte begins is `Begun` (`start_cases`), and the rest is an induction over the bytes.
-/
namespace FirmwareVars
namespace Utf8

/-! ## The forms of a character -/

theorem toNat_ofNat {n : Nat} (h : n < 256) : (UInt8.ofNat n).toNat = n := by
  rw [UInt8.toNat_ofNat']
  exact Nat.mod_eq_of_lt h

theorem encodeChar_one {c : Char} (h : c.toNat ≤ 0x7F) : encodeChar c = [UInt8.ofNat c.toNat] := by
  rw [encodeChar, String.utf8EncodeChar]
  exact if_pos h

theorem encodeChar_two {c : Char} (h1 : 0x7F < c.toNat) (h2 : c.toNat ≤ 0x7FF) :
    encodeChar c = [UInt8.ofNat (c.toNat / 64 % 32 + 0xC0), UInt8.ofNat (c.toNat % 64 + 0x80)] := by
  rw [encodeChar, String.utf8EncodeChar]
  exact (if_neg (Nat.not_le.2 h1)).trans (if_pos h2)

theorem encodeChar_three {c : Char} (h1 : 0x7FF < c.toNat) (h2 : c.toNat ≤ 0xFFFF) :
    encodeChar c = [UInt8.ofNat (c.toNat / 4096 % 16 + 0xE0), UInt8.ofNat (c.toNat / 64 % 64 + 0x80),
      UInt8.ofNat (c.toNat % 64 + 0x80)] := by
  have h0 : 0x7F < c.toNat := by omega
  rw [encodeChar, String.utf8EncodeChar]
  exact (if_neg (Nat.not_le.2 h0)).trans ((if_neg (Nat.not_le.2 h1)).trans (if_pos h2))

theorem encodeChar_four {c : Char} (h : 0xFFFF < c.toNat) :
    encodeChar c = [UInt8.ofNat (c.toNat / 262144 % 8 + 0xF0), UInt8.ofNat (c.toNat / 4096 % 64 + 0x80),
      UInt8.ofNat (c.toNat / 64 % 64 + 0x80), UInt8.ofNat (c.toNat % 64 + 0x80)] := by
  have h0 : 0x7F < c.toNat := by omega
  have h1 : 0x7FF < c.toNat := by omega
  rw [encodeChar, String.utf8EncodeChar]
  exact (if_neg (Nat.not_le.2 h0)).trans ((if_neg (Nat.not_le.2 h1)).trans (if_neg (Nat.not_le.2 h)))

theorem encode_cons (c : Char) (t : Text) : encode (c :: t) = encodeChar c ++ encode t := List.flatMap_cons

theorem encode_append (t u : Text) : encode (t ++ u) = encode t ++ encode u := List.flatMap_append

theorem flatten_map_encode : ∀ ts : List Text, (ts.map encode).flatten = encode ts.flatten
  | [] => rfl
  | t :: ts => by rw [List.map_cons, List.flatten_cons, flatten_map_encode ts, List.flatten_cons, encode_append]

theorem length_encode_of_ascii : ∀ {t : Text}, (∀ c ∈ t, c.toNat ≤ 0x7F) → (encode t).length = t.length
  | [], _ => rfl
  | c :: t, h => by
    rw [encode_cons, encodeChar_one (h c List.mem_cons_self), List.length_append,
      length_encode_of_ascii fun d hd => h d (List.mem_cons_of_mem _ hd), List.length_singleton, List.length_cons,
      Nat.add_comm]

/-- An ASCII byte stands for itself: it is not part of a longer character. -/
theorem eq_of_mem_encodeChar {b : UInt8} (hb : b.toNat ≤ 0x7F) {c : Char} (h : b ∈ encodeChar c) :
    c = Char.ofNat b.toNat := by
  have hc := Character.toNat_cases c
  have hhigh {n : Nat} (hlow : 0x80 ≤ n) (hn : n < 256) : b ≠ UInt8.ofNat n := by
    intro heq
    rw [heq, toNat_ofNat hn] at hb
    omega
  by_cases h1 : c.toNat ≤ 0x7F
  · rw [encodeChar_one h1, List.mem_singleton] at h
    rw [h, toNat_ofNat (by omega), Char.ofNat_toNat]
  refine absurd h ?_
  by_cases h2 : c.toNat ≤ 0x7FF
  · rw [encodeChar_two (by omega) h2]
    simp only [List.mem_cons, List.not_mem_nil, or_false, not_or]
    exact ⟨hhigh (by omega) (by omega), hhigh (by omega) (by omega)⟩
  by_cases h3 : c.toNat ≤ 0xFFFF
  · rw [encodeChar_three (by omega) h3]
    simp only [List.mem_cons, List.not_mem_nil, or_false, not_or]
    exact ⟨hhigh (by omega) (by omega), hhigh (by omega) (by omega), hhigh (by omega) (by omega)⟩
  · rw [encodeChar_four (by omega)]
    simp only [List.mem_cons, List.not_mem_nil, or_false, not_or]
    exact ⟨hhigh (by omega) (by omega), hhigh (by omega) (by omega), hhigh (by omega) (by omega),
      hhigh (by omega) (by omega)⟩

theorem mem_encode {b : UInt8} {c : Char} {t : Text} (hc : c ∈ t) (hb : b ∈ encodeChar c) : b ∈ encode t :=
  List.mem_flatMap.2 ⟨c, hc, hb⟩

theorem mem_of_mem_encode {b : UInt8} (hb : b.toNat ≤ 0x7F) {t : Text} (h : b ∈ encode t) : Char.ofNat b.toNat ∈ t := by
  obtain ⟨c, hc, hbc⟩ := List.mem_flatMap.1 h
  exact eq_of_mem_encodeChar hb hbc ▸ hc

/-! ## From the form to the text -/

/-- The least byte that may follow a first byte. -/
def leastAfter (n : Nat) : UInt8 := if n = 0xE0 then 0xA0 else if n = 0xF0 then 0x90 else 0x80

/-- The greatest byte that may follow a first byte. -/
def greatestAfter (n : Nat) : UInt8 := if n = 0xED then 0x9F else if n = 0xF4 then 0x8F else 0xBF

theorem leastAfter_le_iff {n : Nat} {b : UInt8} :
    leastAfter n ≤ b ↔ 0x80 ≤ b.toNat ∧ (n = 0xE0 → 0xA0 ≤ b.toNat) ∧ (n = 0xF0 → 0x90 ≤ b.toNat) := by
  rw [UInt8.le_iff_toNat_le, leastAfter]
  by_cases hE0 : n = 0xE0
  · rw [if_pos hE0]
    change 0xA0 ≤ b.toNat ↔ _
    omega
  by_cases hF0 : n = 0xF0
  · rw [if_neg hE0, if_pos hF0]
    change 0x90 ≤ b.toNat ↔ _
    omega
  · rw [if_neg hE0, if_neg hF0]
    change 0x80 ≤ b.toNat ↔ _
    omega

theorem le_greatestAfter_iff {n : Nat} {b : UInt8} :
    b ≤ greatestAfter n ↔ b.toNat ≤ 0xBF ∧ (n = 0xED → b.toNat ≤ 0x9F) ∧ (n = 0xF4 → b.toNat ≤ 0x8F) := by
  rw [UInt8.le_iff_toNat_le, greatestAfter]
  by_cases hED : n = 0xED
  · rw [if_pos hED]
    change b.toNat ≤ 0x9F ↔ _
    omega
  by_cases hF4 : n = 0xF4
  · rw [if_neg hED, if_pos hF4]
    change b.toNat ≤ 0x8F ↔ _
    omega
  · rw [if_neg hED, if_neg hF4]
    change b.toNat ≤ 0xBF ↔ _
    omega

theorem start_two {b : UInt8} (h1 : 0xC2 ≤ b.toNat) (h2 : b.toNat < 0xE0) :
    start b = .inr ⟨b.toNat % 32, 1, 0x80, 0xBF, [b]⟩ := by
  simp only [start]
  rw [if_neg (by omega), if_neg (by omega), if_pos h2]

theorem start_three {b : UInt8} (h1 : 0xE0 ≤ b.toNat) (h2 : b.toNat < 0xF0) :
    start b = .inr ⟨b.toNat % 16, 2, leastAfter b.toNat, greatestAfter b.toNat, [b]⟩ := by
  simp only [start, leastAfter, greatestAfter]
  rw [if_neg (by omega), if_neg (by omega), if_neg (by omega)]
  by_cases hE0 : b.toNat = 0xE0
  · rw [if_pos hE0, if_pos hE0, if_neg (by omega), if_neg (by omega)]
  by_cases hED : b.toNat = 0xED
  · rw [if_neg hE0, if_pos hED, if_neg hE0, if_neg (by omega), if_pos hED]
  · rw [if_neg hE0, if_neg hED, if_pos h2, if_neg hE0, if_neg (by omega), if_neg hED, if_neg (by omega)]

theorem start_four {b : UInt8} (h1 : 0xF0 ≤ b.toNat) (h2 : b.toNat ≤ 0xF4) :
    start b = .inr ⟨b.toNat % 8, 3, leastAfter b.toNat, greatestAfter b.toNat, [b]⟩ := by
  simp only [start, leastAfter, greatestAfter]
  rw [if_neg (by omega), if_neg (by omega), if_neg (by omega), if_neg (by omega), if_neg (by omega),
    if_neg (by omega)]
  by_cases hF0 : b.toNat = 0xF0
  · rw [if_pos hF0, if_neg (by omega), if_pos hF0, if_neg (by omega), if_neg (by omega)]
  by_cases hF4 : b.toNat = 0xF4
  · rw [if_neg hF0, if_neg (by omega), if_pos hF4, if_neg (by omega), if_neg hF0, if_neg (by omega), if_pos hF4]
  · rw [if_neg hF0, if_pos (by omega), if_neg (by omega), if_neg hF0, if_neg (by omega), if_neg hF4]

/-- The last byte of a character makes it. -/
theorem piecesFrom_last {value : Nat} {low high b : UInt8} {held : Bytes} (hl : low ≤ b) (hh : b ≤ high) (bs : Bytes) :
    piecesFrom (some ⟨value, 1, low, high, held⟩) (b :: bs) =
      .char (Char.ofNat (value * 64 + b.toNat % 64)) :: piecesFrom none bs := by
  simp only [piecesFrom, if_pos (And.intro hl hh), Partial.push, if_pos (Nat.le_refl 1)]

/-- Any other byte leads on. -/
theorem piecesFrom_more {value owed : Nat} {low high b : UInt8} {held : Bytes} (hl : low ≤ b) (hh : b ≤ high)
    (bs : Bytes) :
    piecesFrom (some ⟨value, owed + 2, low, high, held⟩) (b :: bs) =
      piecesFrom (some ⟨value * 64 + b.toNat % 64, owed + 1, 0x80, 0xBF, held ++ [b]⟩) bs := by
  simp only [piecesFrom, if_pos (And.intro hl hh), Partial.push, if_neg (show ¬ owed + 2 ≤ 1 by omega)]
  rfl

theorem piecesFrom_none_begin {b : UInt8} {p : Partial} (h : start b = .inr p) (bs : Bytes) :
    piecesFrom none (b :: bs) = piecesFrom (some p) bs := by
  simp only [piecesFrom, h]

/-- A byte that goes on with a character: its number, and that it is within the usual bounds. -/
theorem tail_bounds {n : Nat} (h : n < 64) :
    (UInt8.ofNat (n + 0x80)).toNat = n + 0x80 ∧ (0x80 : UInt8) ≤ UInt8.ofNat (n + 0x80) ∧
      UInt8.ofNat (n + 0x80) ≤ (0xBF : UInt8) := by
  have hn : (UInt8.ofNat (n + 0x80)).toNat = n + 0x80 := toNat_ofNat (by omega)
  refine ⟨hn, ?_, ?_⟩
  · rw [UInt8.le_iff_toNat_le, hn]
    exact Nat.le_add_left _ _
  · rw [UInt8.le_iff_toNat_le, hn]
    change n + 0x80 ≤ 0xBF
    omega

theorem piecesFrom_two {c : Char} (h1 : 0x7F < c.toNat) (h2 : c.toNat ≤ 0x7FF) (rest : Bytes) :
    piecesFrom none (encodeChar c ++ rest) = .char c :: piecesFrom none rest := by
  have hb : (UInt8.ofNat (c.toNat / 64 % 32 + 0xC0)).toNat = c.toNat / 64 % 32 + 0xC0 := toNat_ofNat (by omega)
  obtain ⟨ht, hl, hh⟩ := tail_bounds (Nat.mod_lt c.toNat (show 0 < 64 by decide))
  have hstart := start_two (b := UInt8.ofNat (c.toNat / 64 % 32 + 0xC0)) (by omega) (by omega)
  have hvalue : (c.toNat / 64 % 32 + 0xC0) % 32 * 64 + (c.toNat % 64 + 0x80) % 64 = c.toNat := by omega
  rw [encodeChar_two h1 h2, List.cons_append, List.cons_append, List.nil_append, piecesFrom_none_begin hstart,
    piecesFrom_last hl hh, hb, ht, hvalue, Char.ofNat_toNat]

theorem piecesFrom_three {c : Char} (h1 : 0x7FF < c.toNat) (h2 : c.toNat ≤ 0xFFFF) (rest : Bytes) :
    piecesFrom none (encodeChar c ++ rest) = .char c :: piecesFrom none rest := by
  have hc := Character.toNat_cases c
  have hb : (UInt8.ofNat (c.toNat / 4096 % 16 + 0xE0)).toNat = c.toNat / 4096 % 16 + 0xE0 := toNat_ofNat (by omega)
  obtain ⟨hs, -, -⟩ := tail_bounds (Nat.mod_lt (c.toNat / 64) (show 0 < 64 by decide))
  obtain ⟨ht, hl, hh⟩ := tail_bounds (Nat.mod_lt c.toNat (show 0 < 64 by decide))
  have hstart := start_three (b := UInt8.ofNat (c.toNat / 4096 % 16 + 0xE0)) (by omega) (by omega)
  have hleast : leastAfter (UInt8.ofNat (c.toNat / 4096 % 16 + 0xE0)).toNat ≤
      UInt8.ofNat (c.toNat / 64 % 64 + 0x80) := by
    rw [leastAfter_le_iff]
    omega
  have hgreatest : UInt8.ofNat (c.toNat / 64 % 64 + 0x80) ≤
      greatestAfter (UInt8.ofNat (c.toNat / 4096 % 16 + 0xE0)).toNat := by
    rw [le_greatestAfter_iff]
    omega
  have hvalue : ((c.toNat / 4096 % 16 + 0xE0) % 16 * 64 + (c.toNat / 64 % 64 + 0x80) % 64) * 64 +
      (c.toNat % 64 + 0x80) % 64 = c.toNat := by omega
  rw [encodeChar_three h1 h2, List.cons_append, List.cons_append, List.cons_append, List.nil_append,
    piecesFrom_none_begin hstart, piecesFrom_more hleast hgreatest,
    piecesFrom_last hl hh, hb, hs, ht, hvalue, Char.ofNat_toNat]

theorem piecesFrom_four {c : Char} (h : 0xFFFF < c.toNat) (rest : Bytes) :
    piecesFrom none (encodeChar c ++ rest) = .char c :: piecesFrom none rest := by
  have hc := Character.toNat_cases c
  have hb : (UInt8.ofNat (c.toNat / 262144 % 8 + 0xF0)).toNat = c.toNat / 262144 % 8 + 0xF0 := toNat_ofNat (by omega)
  obtain ⟨hr, -, -⟩ := tail_bounds (Nat.mod_lt (c.toNat / 4096) (show 0 < 64 by decide))
  obtain ⟨hs, hl', hh'⟩ := tail_bounds (Nat.mod_lt (c.toNat / 64) (show 0 < 64 by decide))
  obtain ⟨ht, hl, hh⟩ := tail_bounds (Nat.mod_lt c.toNat (show 0 < 64 by decide))
  have hstart := start_four (b := UInt8.ofNat (c.toNat / 262144 % 8 + 0xF0)) (by omega) (by omega)
  have hleast : leastAfter (UInt8.ofNat (c.toNat / 262144 % 8 + 0xF0)).toNat ≤
      UInt8.ofNat (c.toNat / 4096 % 64 + 0x80) := by
    rw [leastAfter_le_iff]
    omega
  have hgreatest : UInt8.ofNat (c.toNat / 4096 % 64 + 0x80) ≤
      greatestAfter (UInt8.ofNat (c.toNat / 262144 % 8 + 0xF0)).toNat := by
    rw [le_greatestAfter_iff]
    omega
  have hvalue : (((c.toNat / 262144 % 8 + 0xF0) % 8 * 64 + (c.toNat / 4096 % 64 + 0x80) % 64) * 64 +
      (c.toNat / 64 % 64 + 0x80) % 64) * 64 + (c.toNat % 64 + 0x80) % 64 = c.toNat := by omega
  rw [encodeChar_four h, List.cons_append, List.cons_append, List.cons_append, List.cons_append, List.nil_append,
    piecesFrom_none_begin hstart, piecesFrom_more hleast hgreatest,
    piecesFrom_more hl' hh', piecesFrom_last hl hh, hb, hr, hs, ht, hvalue,
    Char.ofNat_toNat]

/-- **The bytes of a character are one piece**, whatever follows them. -/
theorem piecesFrom_encodeChar (c : Char) (rest : Bytes) :
    piecesFrom none (encodeChar c ++ rest) = .char c :: piecesFrom none rest := by
  by_cases h1 : c.toNat ≤ 0x7F
  · have hb : (UInt8.ofNat c.toNat).toNat = c.toNat := toNat_ofNat (by omega)
    have hstart : start (UInt8.ofNat c.toNat) = .inl (.char c) := by
      simp only [start, hb]
      rw [if_pos (by omega), Char.ofNat_toNat]
    rw [encodeChar_one h1, List.cons_append, List.nil_append]
    simp only [piecesFrom, hstart]
  by_cases h2 : c.toNat ≤ 0x7FF
  · exact piecesFrom_two (by omega) h2 rest
  by_cases h3 : c.toNat ≤ 0xFFFF
  · exact piecesFrom_three (by omega) h3 rest
  · exact piecesFrom_four (by omega) rest

theorem pieces_encode : ∀ t : Text, pieces (encode t) = t.map .char
  | [] => rfl
  | c :: t => by
    rw [pieces, encode_cons, piecesFrom_encodeChar, ← pieces, pieces_encode t, List.map_cons]

theorem textOf?_map_char : ∀ t : Text, textOf? (t.map .char) = some t
  | [] => rfl
  | c :: t => by rw [List.map_cons, textOf?, textOf?_map_char t, Option.map_some]

/-- **Every text is read back from its bytes.** -/
theorem decode?_encode (t : Text) : decode? (encode t) = some t := by
  rw [decode?, pieces_encode, textOf?_map_char]

theorem decodeLossy_encode (t : Text) : decodeLossy (encode t) = t := by
  rw [decodeLossy, pieces_encode, List.map_map]
  exact List.map_id t

/-! ## From the text to the form -/

/-- The bytes taken so far begin the form of some character: whatever byte within the bounds comes next, it makes a
character with that form, or a beginning again. -/
inductive Begun : Partial → Prop
  | last {value : Nat} {low high : UInt8} {held : Bytes}
      (h : ∀ b, low ≤ b → b ≤ high → encodeChar (Char.ofNat (value * 64 + b.toNat % 64)) = held ++ [b]) :
      Begun ⟨value, 1, low, high, held⟩
  | more {value owed : Nat} {low high : UInt8} {held : Bytes}
      (h : ∀ b, low ≤ b → b ≤ high → Begun ⟨value * 64 + b.toNat % 64, owed + 1, 0x80, 0xBF, held ++ [b]⟩) :
      Begun ⟨value, owed + 2, low, high, held⟩

theorem tail_iff {b : UInt8} : (0x80 : UInt8) ≤ b ∧ b ≤ (0xBF : UInt8) ↔ 0x80 ≤ b.toNat ∧ b.toNat ≤ 0xBF := by
  rw [UInt8.le_iff_toNat_le, UInt8.le_iff_toNat_le]
  rfl

theorem begun_two {b : UInt8} (h1 : 0xC2 ≤ b.toNat) (h2 : b.toNat < 0xE0) :
    Begun ⟨b.toNat % 32, 1, 0x80, 0xBF, [b]⟩ := by
  apply Begun.last
  intro x hl hh
  obtain ⟨hx, hx'⟩ := tail_iff.1 ⟨hl, hh⟩
  have hn : (Char.ofNat (b.toNat % 32 * 64 + x.toNat % 64)).toNat = b.toNat % 32 * 64 + x.toNat % 64 :=
    Character.toNat_ofNat (by unfold Nat.isValidChar; omega)
  have hb : (b.toNat % 32 * 64 + x.toNat % 64) / 64 % 32 + 0xC0 = b.toNat := by omega
  have ht : (b.toNat % 32 * 64 + x.toNat % 64) % 64 + 0x80 = x.toNat := by omega
  rw [encodeChar_two (by omega) (by omega), hn, hb, ht, UInt8.ofNat_toNat, UInt8.ofNat_toNat]
  rfl

theorem begun_three {b : UInt8} (h1 : 0xE0 ≤ b.toNat) (h2 : b.toNat < 0xF0) :
    Begun ⟨b.toNat % 16, 2, leastAfter b.toNat, greatestAfter b.toNat, [b]⟩ := by
  apply Begun.more
  intro x hl hh
  rw [leastAfter_le_iff] at hl
  rw [le_greatestAfter_iff] at hh
  apply Begun.last
  intro y hl' hh'
  obtain ⟨hy, hy'⟩ := tail_iff.1 ⟨hl', hh'⟩
  generalize hv : (b.toNat % 16 * 64 + x.toNat % 64) * 64 + y.toNat % 64 = v
  have hn : (Char.ofNat v).toNat = v := Character.toNat_ofNat (by unfold Nat.isValidChar; omega)
  have hb : v / 4096 % 16 + 0xE0 = b.toNat := by omega
  have hs : v / 64 % 64 + 0x80 = x.toNat := by omega
  have ht : v % 64 + 0x80 = y.toNat := by omega
  rw [encodeChar_three (by omega) (by omega), hn, hb, hs, ht, UInt8.ofNat_toNat, UInt8.ofNat_toNat, UInt8.ofNat_toNat]
  rfl

theorem begun_four {b : UInt8} (h1 : 0xF0 ≤ b.toNat) (h2 : b.toNat ≤ 0xF4) :
    Begun ⟨b.toNat % 8, 3, leastAfter b.toNat, greatestAfter b.toNat, [b]⟩ := by
  apply Begun.more
  intro x hl hh
  rw [leastAfter_le_iff] at hl
  rw [le_greatestAfter_iff] at hh
  apply Begun.more
  intro y hl' hh'
  obtain ⟨hy, hy'⟩ := tail_iff.1 ⟨hl', hh'⟩
  apply Begun.last
  intro z hl'' hh''
  obtain ⟨hz, hz'⟩ := tail_iff.1 ⟨hl'', hh''⟩
  generalize hv : ((b.toNat % 8 * 64 + x.toNat % 64) * 64 + y.toNat % 64) * 64 + z.toNat % 64 = v
  have hn : (Char.ofNat v).toNat = v := Character.toNat_ofNat (by unfold Nat.isValidChar; omega)
  have hb : v / 262144 % 8 + 0xF0 = b.toNat := by omega
  have hr : v / 4096 % 64 + 0x80 = x.toNat := by omega
  have hs : v / 64 % 64 + 0x80 = y.toNat := by omega
  have ht : v % 64 + 0x80 = z.toNat := by omega
  rw [encodeChar_four (by omega), hn, hb, hr, hs, ht, UInt8.ofNat_toNat, UInt8.ofNat_toNat, UInt8.ofNat_toNat,
    UInt8.ofNat_toNat]
  rfl

/-- **What a first byte makes**: a character with that form, or a beginning, or nothing. -/
theorem start_cases (b : UInt8) :
    (∃ c, start b = .inl (.char c) ∧ encodeChar c = [b]) ∨ (∃ p, start b = .inr p ∧ p.held = [b] ∧ Begun p) ∨
      start b = .inl (.broken [b]) := by
  by_cases h1 : b.toNat < 0x80
  · left
    have hn : (Char.ofNat b.toNat).toNat = b.toNat := Character.toNat_ofNat (by unfold Nat.isValidChar; omega)
    refine ⟨Char.ofNat b.toNat, ?_, ?_⟩
    · simp only [start, if_pos h1]
    · rw [encodeChar_one (by omega), hn, UInt8.ofNat_toNat]
  right
  by_cases h2 : b.toNat < 0xC2
  · right
    simp only [start, if_neg h1, if_pos h2]
  by_cases h3 : b.toNat < 0xE0
  · exact .inl ⟨_, start_two (by omega) h3, rfl, begun_two (by omega) h3⟩
  by_cases h4 : b.toNat < 0xF0
  · exact .inl ⟨_, start_three (by omega) h4, rfl, begun_three (by omega) h4⟩
  by_cases h5 : b.toNat ≤ 0xF4
  · exact .inl ⟨_, start_four (by omega) h5, rfl, begun_four (by omega) h5⟩
  · right
    simp only [start]
    rw [if_neg h1, if_neg h2, if_neg h3, if_neg (by omega), if_neg (by omega), if_neg h4, if_neg (by omega),
      if_neg (by omega), if_neg (by omega)]

theorem textOf?_cons {piece : Piece} {pieces : List Piece} {t : Text} (h : textOf? (piece :: pieces) = some t) :
    ∃ c t', piece = .char c ∧ t = c :: t' ∧ textOf? pieces = some t' := by
  cases piece with
  | char c =>
    obtain ⟨t', ht, rfl⟩ := Option.map_eq_some_iff.1 h
    exact ⟨c, t', rfl, rfl, ht⟩
  | broken bytes => cases h

/-- **Pieces that are all characters were cut out of the form of their text**, from between characters and from within
one. -/
theorem eq_encode_of_textOf? : ∀ (bs : Bytes) (t : Text),
    (textOf? (piecesFrom none bs) = some t → bs = encode t) ∧
    ∀ p, Begun p → textOf? (piecesFrom (some p) bs) = some t → p.held ++ bs = encode t
  | [], t => by
    refine ⟨fun h => ?_, fun p _ h => ?_⟩
    · cases h
      rfl
    · cases h
  | b :: bs, t => by
    refine ⟨fun h => ?_, fun p hp h => ?_⟩
    · rcases start_cases b with ⟨c, hs, hc⟩ | ⟨p, hs, hheld, hp⟩ | hs
      · simp only [piecesFrom, hs] at h
        obtain ⟨c', t', hc', rfl, ht⟩ := textOf?_cons h
        cases hc'
        rw [encode_cons, hc, ← (eq_encode_of_textOf? bs t').1 ht]
        rfl
      · rw [piecesFrom_none_begin hs] at h
        have := (eq_encode_of_textOf? bs t).2 p hp h
        rw [hheld] at this
        exact this
      · simp only [piecesFrom, hs] at h
        cases h
    · by_cases hb : p.low ≤ b ∧ b ≤ p.high
      · cases hp with
        | last hform =>
          rw [piecesFrom_last hb.1 hb.2] at h
          obtain ⟨c, t', hc, rfl, ht⟩ := textOf?_cons h
          cases hc
          rw [encode_cons, hform b hb.1 hb.2, ← (eq_encode_of_textOf? bs t').1 ht, List.append_assoc]
          rfl
        | more hnext =>
          rw [piecesFrom_more hb.1 hb.2] at h
          have := (eq_encode_of_textOf? bs t).2 _ (hnext b hb.1 hb.2) h
          rw [List.append_assoc] at this
          exact this
      · -- the beginning is given up, so it is no character
        simp only [piecesFrom, if_neg hb] at h
        cases hs : start b <;> rw [hs] at h <;> cases h

/-- **Bytes that are read are the bytes of what they are read as**, and of nothing else. -/
theorem decode?_eq_some_iff {bs : Bytes} {t : Text} : decode? bs = some t ↔ bs = encode t :=
  ⟨(eq_encode_of_textOf? bs t).1, fun h => h ▸ decode?_encode t⟩

theorem decode?_eq_none_iff {bs : Bytes} : decode? bs = none ↔ ¬ ∃ t, bs = encode t := by
  rw [Option.eq_none_iff_forall_ne_some]
  constructor
  · rintro h ⟨t, ht⟩
    exact h t (decode?_eq_some_iff.2 ht)
  · intro h t ht
    exact h ⟨t, decode?_eq_some_iff.1 ht⟩

theorem encode_injective {t u : Text} (h : encode t = encode u) : t = u := by
  have ht := decode?_encode t
  rw [h, decode?_encode] at ht
  exact (Option.some.inj ht).symm

end Utf8
end FirmwareVars
