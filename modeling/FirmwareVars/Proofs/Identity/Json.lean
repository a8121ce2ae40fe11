import FirmwareVars.Identity.Json
import FirmwareVars.Proofs.Guid.Spelling
import FirmwareVars.Proofs.Json.Reader
/-!
# Identities as JSON, there and back

An identity is written as an object of two members with blanks between the parts or without (`laidOut`), and is read back
from it in any layout (`readJson_laidOut`), so from one line, from a line for each member, and as an item of a list
(`ofJson_toJson`, `ofJson_toJsonLines`, `listOfJson_listToJson`).  What a name is made of does not matter.
-/
namespace FirmwareVars
namespace Identity

open FirmwareVars.Json (IsGap BeginsItem)

variable {found found' : Found} {fuel : Nat} {first : Bool} {gap inner outer t after : Text}

/-! ## Members -/

theorem skipColon_cons (t : Text) : skipColon (':' :: t) = .ok t := by
  simp only [skipColon, Json.skipBlank_cons (show Json.isBlank ':' = false by decide)]

/-- **A GUID is read back from its quotation.** -/
theorem readGuid_quote (hgap : IsGap gap) (g : Guid) (rest : Text) :
    readGuid (gap ++ (Json.quote g.spell ++ rest)) = .ok (g, rest) := by
  rw [readGuid, Json.readText_quote hgap]
  simp only [Guid.parse?_spell]

theorem member_append (gap key value rest : Text) : member gap key value ++ rest =
    '\x22' :: (key.flatMap Json.escape ++ '\x22' :: ':' :: (gap ++ (Json.quote value ++ rest))) := by
  simp [member, Json.quote]

theorem exists_readMember_name (hgap : IsGap gap) (found : Found) (hfound : found.name = none) (name rest : Text) :
    ∃ t, member gap "name".toList name ++ rest = '\x22' :: t ∧
      readMember found t = .ok ({ found with name := some name }, rest) := by
  refine ⟨_, member_append gap _ name rest, ?_⟩
  simp only [readMember, Json.readString_flatMap_escape, bind, Except.bind, skipColon_cons, Json.readText_quote hgap,
    hfound, Option.isSome_none, Bool.false_eq_true, if_true, if_false]

theorem exists_readMember_guid (hgap : IsGap gap) (found : Found) (hfound : found.guid = none) (g : Guid) (rest : Text) :
    ∃ t, member gap "guid".toList g.spell ++ rest = '\x22' :: t ∧
      readMember found t = .ok ({ found with guid := some g }, rest) := by
  have hkey : "guid".toList ≠ "name".toList := by decide
  refine ⟨_, member_append gap _ g.spell rest, ?_⟩
  simp only [readMember, Json.readString_flatMap_escape, bind, Except.bind, skipColon_cons, readGuid_quote hgap,
    hfound, hkey, Option.isSome_none, Bool.false_eq_true, if_true, if_false]

/-! ## Objects -/

theorem readMembers_close (hgap : IsGap gap) (rest : Text) :
    readMembers (fuel + 1) first found (gap ++ '\x7d' :: rest) = found.finish rest := by
  have hskip : Json.skipBlank (gap ++ '\x7d' :: rest) = '\x7d' :: rest := hgap.skipBlank_append_cons (by decide) rest
  simp only [readMembers, hskip, if_true]

theorem readMembers_first (hgap : IsGap gap) (hmember : readMember found t = .ok (found', after)) :
    readMembers (fuel + 1) true found (gap ++ '\x22' :: t) = readMembers fuel false found' after := by
  have hskip : Json.skipBlank (gap ++ '\x22' :: t) = '\x22' :: t := hgap.skipBlank_append_cons (by decide) t
  simp only [readMembers, hskip, if_neg (show '\x22' ≠ '\x7d' by decide), if_true, hmember]
  rfl

theorem readMembers_comma (hgap : IsGap gap) (hmember : readMember found t = .ok (found', after)) :
    readMembers (fuel + 1) false found (',' :: (gap ++ '\x22' :: t)) = readMembers fuel false found' after := by
  have hcomma : Json.skipBlank (',' :: (gap ++ '\x22' :: t)) = ',' :: (gap ++ '\x22' :: t) :=
    Json.skipBlank_cons (by decide) _
  have hskip : Json.skipBlank (gap ++ '\x22' :: t) = '\x22' :: t := hgap.skipBlank_append_cons (by decide) t
  simp only [readMembers, hcomma, hskip, if_neg (show ',' ≠ '\x7d' by decide), Bool.false_eq_true, if_false, if_true,
    hmember]
  rfl

/-- The identity as an object: `inner` before each member, `gap` before each value, `outer` before the closing brace. -/
def laidOut (inner gap outer : Text) (i : Identity) : Text :=
  '\x7b' :: (inner ++ (member gap "name".toList i.name ++
    ',' :: (inner ++ (member gap "guid".toList i.guid.spell ++ (outer ++ ['\x7d'])))))

theorem toJson_eq (i : Identity) : toJson i = laidOut [] [] [] i := by
  simp [toJson, laidOut]

theorem toJsonLines_eq (indent : Nat) (i : Identity) : toJsonLines indent i =
    laidOut ('\n' :: List.replicate (indent + 2) ' ') [' '] ('\n' :: List.replicate indent ' ') i := by
  have hmargin : List.replicate (indent + 2) ' ' = List.replicate indent ' ' ++ "  ".toList :=
    List.replicate_append_replicate.symm
  simp [toJsonLines, laidOut, hmargin]

/-- **An identity is read back from any layout of it.** -/
theorem readJson_laidOut (hinner : IsGap inner) (hgap : IsGap gap) (houter : IsGap outer) (i : Identity) (rest : Text) :
    readJson (laidOut inner gap outer i ++ rest) = .ok (i, rest) := by
  obtain ⟨t, ht, hguid⟩ := exists_readMember_guid hgap ⟨some i.name, none⟩ rfl i.guid
    (outer ++ '\x7d' :: rest)
  obtain ⟨u, hu, hname⟩ := exists_readMember_name hgap ⟨none, none⟩ rfl i.name
    (',' :: (inner ++ '\x22' :: t))
  have htext : laidOut inner gap outer i ++ rest = '\x7b' :: (inner ++ '\x22' :: u) := by
    rw [← hu, ← ht]
    simp [laidOut]
  have hbrace : Json.skipBlank ('\x7b' :: (inner ++ '\x22' :: u)) = '\x7b' :: (inner ++ '\x22' :: u) :=
    Json.skipBlank_cons (by decide) _
  have hlength : u.length + 1 = (member gap "name".toList i.name ++ ',' :: (inner ++ '\x22' :: t)).length := by
    rw [hu, List.length_cons]
  obtain ⟨fuel, hfuel⟩ : ∃ fuel, (inner ++ '\x22' :: u).length + 1 = fuel + 3 := by
    refine Nat.exists_eq_add_of_le' ?_
    simp only [member, Json.quote, List.length_append, List.length_cons] at hlength ⊢
    omega
  rw [htext, readJson, hbrace]
  simp only [hfuel]
  rw [readMembers_first hinner hname, readMembers_comma hinner hguid, readMembers_close houter]
  rfl

/-! ## Documents -/

theorem isGap_newline (n : Nat) : IsGap ('\n' :: List.replicate n ' ') := by
  intro c hc
  rcases List.mem_cons.1 hc with rfl | hc
  · rfl
  · exact Json.isGap_replicate n c hc

theorem isGap_space : IsGap [' '] := Json.isGap_replicate 1

theorem readJson_toJsonLines (indent : Nat) (i : Identity) (rest : Text) :
    readJson (toJsonLines indent i ++ rest) = .ok (i, rest) := by
  rw [toJsonLines_eq]
  exact readJson_laidOut (isGap_newline _) isGap_space (isGap_newline _) i rest

theorem ofJson_toJson (i : Identity) : ofJson (toJson i) = .ok i := by
  have hread := readJson_laidOut Json.isGap_nil Json.isGap_nil Json.isGap_nil i []
  rw [List.append_nil, ← toJson_eq] at hread
  exact Json.readDocument_of_gap hread Json.isGap_nil

theorem ofJson_toJsonLines (indent : Nat) (i : Identity) : ofJson (toJsonLines indent i) = .ok i := by
  have hread := readJson_toJsonLines indent i []
  rw [List.append_nil] at hread
  exact Json.readDocument_of_gap hread Json.isGap_nil

/-- **A list of identities is read back**, whatever the names are and in whatever order the identities stand. -/
theorem listOfJson_listToJson {gap : Text} (hgap : IsGap gap) (is : List Identity) :
    listOfJson (listToJson is ++ gap) = .ok is := by
  refine Json.readDocument_of_gap ?_ hgap
  cases is with
  | nil => exact Json.readArray_close gap
  | cons i is =>
    have hbegins (i : Identity) : BeginsItem (toJsonLines 2 i) := ⟨'\x7b', _, toJsonLines_eq 2 i, by decide, by decide⟩
    have harray := Json.readArray_joinWith (readJson_toJsonLines 2) hbegins (isGap_newline 2) (isGap_newline 0) i is gap
    rw [listToJson, if_neg (List.cons_ne_nil i is)]
    simpa using harray

end Identity
end FirmwareVars
