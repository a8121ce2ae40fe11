import FirmwareVars.Program
import FirmwareVars.Proofs.Attributes
import FirmwareVars.Proofs.Host.Run
import FirmwareVars.Proofs.Utf8
/-!
# Settings by rank

Which of the places that settings come from is the one that counts.  `RootFrom` and `WordFrom` are the two rules, one
for the root and one for the attribute word; neither of them looks at what the other one looks at.  On any host, the
settings of a run fail in two ways only (`outcome_resolve_eq_error_iff`), and otherwise are those of the two rules
(`outcome_resolve_eq_ok_iff`).
-/
namespace FirmwareVars

open CommandLine (Invocation)

theorem Surroundings.text?_eq_some_iff {value : Option Bytes} {t : Text} :
    text? value = some t ↔ value = some (Utf8.encode t) := by
  simp only [text?, Option.bind_eq_some_iff, Utf8.decode?_eq_some_iff, exists_eq_right]

theorem Surroundings.text?_eq_none_iff {value : Option Bytes} :
    text? value = none ↔ ∀ t, value ≠ some (Utf8.encode t) := by
  simp only [Option.eq_none_iff_forall_ne_some, Ne, text?_eq_some_iff]

namespace Config

/-! ## What a document gives -/

/-- The settings that a text gives, and nothing for those that it leaves out. -/
def given? (t : Text) : Option Given :=
  (Yaml.Document.read? t).bind fun d => d.pairs?.bind (ofPairs? d ⟨none, none⟩)

def Given.settled (g : Given) : Config := ⟨g.root.getD standardRoot, g.defaultAttributes.getD 7⟩

theorem ofYaml?_eq (t : Text) : ofYaml? t = (given? t).map Given.settled := by
  rw [ofYaml?, given?, Option.map_bind]
  congr 1
  funext d
  rw [ofDocument?, Function.comp_apply]
  cases d.pairs? <;> rfl

/-! ## The two rules -/

/-- The root that counts, where `option` is that of the command line, `value` what the environment says and `given` that
of the document. -/
inductive RootFrom : Option Path → Option Bytes → Option Path → Path → Prop
  | option (p : Path) (value : Option Bytes) (given : Option Path) : RootFrom (some p) value given p
  | environment {t : Text} (ht : ∃ c ∈ t, Text.isBlank c = false) (given : Option Path) :
    RootFrom none (some (Utf8.encode t)) given ⟨Utf8.encode t⟩
  | document {value : Option Bytes} (hvalue : ∀ t, value = some (Utf8.encode t) → ∀ c ∈ t, Text.isBlank c = true)
    (p : Path) : RootFrom none value (some p) p
  | standard {value : Option Bytes} (hvalue : ∀ t, value = some (Utf8.encode t) → ∀ c ∈ t, Text.isBlank c = true) :
    RootFrom none value none standardRoot

/-- The attribute word that counts, where `value` is what the environment says and `given` that of the document. -/
inductive WordFrom : Option Bytes → Option UInt32 → UInt32 → Prop
  | environment {t : Text} {w : UInt32} (ht : Attributes.parse? t = some w) (given : Option UInt32) :
    WordFrom (some (Utf8.encode t)) given w
  | document {value : Option Bytes} (hvalue : ∀ t, value ≠ some (Utf8.encode t)) (w : UInt32) :
    WordFrom value (some w) w
  | standard {value : Option Bytes} (hvalue : ∀ t, value ≠ some (Utf8.encode t)) : WordFrom value none 7

variable {s : Surroundings}

/-- **The environment names a root by a text that is not all blanks**, and the root is that text as it stands. -/
theorem rootOf?_eq_some_iff {p : Path} : rootOf? s = some p ↔
    ∃ t, s.root = some (Utf8.encode t) ∧ (∃ c ∈ t, Text.isBlank c = false) ∧ p = ⟨Utf8.encode t⟩ := by
  simp only [← Surroundings.text?_eq_some_iff]
  unfold rootOf?
  cases Surroundings.text? s.root with
  | none => simp
  | some t =>
    by_cases ht : Text.trim t = []
    · simp only [ht, if_true, reduceCtorEq, false_iff]
      rintro ⟨_, hsame, ⟨c, hc, hblank⟩, -⟩
      cases hsame
      rw [Text.trim_eq_nil_iff.1 ht c hc] at hblank
      cases hblank
    · have hsome : ∃ c ∈ t, Text.isBlank c = false := by simpa [Text.trim_eq_nil_iff] using ht
      simp only [ht, if_false, Option.some.injEq, exists_eq_left', hsome, true_and]
      exact eq_comm

theorem rootOf?_eq_none_iff : rootOf? s = none ↔
    ∀ t, s.root = some (Utf8.encode t) → ∀ c ∈ t, Text.isBlank c = true := by
  simp only [Option.eq_none_iff_forall_ne_some, Ne, rootOf?_eq_some_iff]
  constructor
  · intro h t ht c hc
    by_contra hblank
    exact h _ ⟨t, ht, ⟨c, hc, Bool.eq_false_iff.2 hblank⟩, rfl⟩
  · rintro h p ⟨t, ht, ⟨c, hc, hblank⟩, -⟩
    rw [h t ht c hc] at hblank
    cases hblank

theorem rootFrom_iff {option given : Option Path} {p : Path} : RootFrom option s.root given p ↔
    p = option.getD ((rootOf? s).getD (given.getD standardRoot)) := by
  constructor
  · intro h
    generalize hvalue : s.root = value at h
    cases h with
    | option p value given => rfl
    | environment ht given => rw [rootOf?_eq_some_iff.2 ⟨_, hvalue, ht, rfl⟩]; rfl
    | document hblank p => rw [rootOf?_eq_none_iff.2 (hvalue ▸ hblank)]; rfl
    | standard hblank => rw [rootOf?_eq_none_iff.2 (hvalue ▸ hblank)]; rfl
  · rintro rfl
    cases option with
    | some p => exact .option p _ _
    | none =>
      cases henv : rootOf? s with
      | some p =>
        obtain ⟨t, hvalue, ht, rfl⟩ := rootOf?_eq_some_iff.1 henv
        rw [hvalue]
        exact .environment ht given
      | none =>
        have hblank := rootOf?_eq_none_iff.1 henv
        cases given with
        | some p => exact .document hblank p
        | none => exact .standard hblank

theorem wordFrom_iff {value : Option Bytes} {given : Option UInt32} {w : UInt32} : WordFrom value given w ↔
    (Surroundings.text? value = none ∧ w = given.getD 7) ∨
      ∃ t, Surroundings.text? value = some t ∧ Attributes.parse? t = some w := by
  simp only [Surroundings.text?_eq_none_iff, Surroundings.text?_eq_some_iff]
  constructor
  · intro h
    cases h with
    | environment ht given => exact .inr ⟨_, rfl, ht⟩
    | document hvalue w => exact .inl ⟨hvalue, rfl⟩
    | standard hvalue => exact .inl ⟨hvalue, rfl⟩
  · rintro (⟨hvalue, rfl⟩ | ⟨t, rfl, ht⟩)
    · cases given with
      | some w => exact .document hvalue w
      | none => exact .standard hvalue
    · exact .environment ht given

/-- **The root depends on nothing but what may give a root.** -/
theorem RootFrom.unique {option given : Option Path} {value : Option Bytes} {p q : Path}
    (hp : RootFrom option value given p) (hq : RootFrom option value given q) : p = q := by
  have h (r : Path) (hr : RootFrom option value given r) := (rootFrom_iff (s := ⟨value, none⟩)).1 hr
  rw [h p hp, h q hq]

theorem WordFrom.unique {value : Option Bytes} {given : Option UInt32} {w w' : UInt32} (h : WordFrom value given w)
    (h' : WordFrom value given w') : w = w' := by
  rw [wordFrom_iff] at h h'
  cases ht : Surroundings.text? value with
  | none =>
    simp only [ht, reduceCtorEq, false_and, exists_false, or_false, true_and] at h h'
    rw [h, h']
  | some t =>
    simp only [ht, reduceCtorEq, false_and, false_or, Option.some.injEq, exists_eq_left'] at h h'
    exact Option.some.inj (h.symm.trans h')

/-! ## Laying the environment over settings -/

variable {c c' : Config}

theorem overlay_eq_error_iff {e : BadSetting} : c.overlay s = .error e ↔
    ∃ t, s.defaultAttributes = some (Utf8.encode t) ∧ Attributes.parse? t = none ∧ e = ⟨attributesKey, t⟩ := by
  simp only [← Surroundings.text?_eq_some_iff]
  unfold overlay
  cases Surroundings.text? s.defaultAttributes with
  | none => simp
  | some t => cases hw : Attributes.parse? t <;> simp [hw, eq_comm]

theorem overlay_eq_ok_iff : c.overlay s = .ok c' ↔ c'.root = (rootOf? s).getD c.root ∧
    ((Surroundings.text? s.defaultAttributes = none ∧ c'.defaultAttributes = c.defaultAttributes) ∨
      ∃ t, Surroundings.text? s.defaultAttributes = some t ∧ Attributes.parse? t = some c'.defaultAttributes) := by
  obtain ⟨root', word'⟩ := c'
  unfold overlay
  cases Surroundings.text? s.defaultAttributes with
  | none => simp [eq_comm]
  | some t => cases hw : Attributes.parse? t <;> simp [hw, eq_comm]

/-- **Laying the environment over settings twice is laying it over once.** -/
theorem overlay_overlay (c : Config) (s : Surroundings) : (c.overlay s).bind (fun c => c.overlay s) = c.overlay s := by
  cases h : c.overlay s with
  | error e => rfl
  | ok c' =>
    obtain ⟨hroot, hword⟩ := overlay_eq_ok_iff.1 h
    refine overlay_eq_ok_iff.2 ⟨?_, ?_⟩
    · rw [hroot]
      cases rootOf? s <;> rfl
    · exact hword.imp_left fun ⟨hnone, _⟩ => ⟨hnone, rfl⟩

end Config

/-! ## The settings of a run -/

namespace Program

open Config (Given RootFrom WordFrom)

section Hosts

variable {σ Handle : Type} (host : {β : Type} → Request Handle β → StateM σ β)

/-- What the document of an invocation gives, where the host is in a given state.  An invocation without one is given
nothing. -/
inductive Gives (st : σ) : Option Path → Given → Prop
  | nothing : Gives st none ⟨none, none⟩
  | document {path : Path} {raw : Bytes} {t : Text} {given : Given} (hraw : (host (.readFile path) st).1 = .ok raw)
    (ht : Utf8.decode? raw = some t) (hgiven : Config.given? t = some given) : Gives st (some path) given

variable {host} {st : σ} {inv : Invocation} {s : Surroundings}

theorem Gives.unique {config : Option Path} {given given' : Given} (h : Gives host st config given)
    (h' : Gives host st config given') : given = given' := by
  cases h with
  | nothing =>
    cases h'
    rfl
  | document hraw ht hgiven =>
    cases h' with
    | document hraw' ht' hgiven' =>
      obtain rfl := Except.ok.inj (hraw.symm.trans hraw')
      obtain rfl := Option.some.inj (ht.symm.trans ht')
      exact Option.some.inj (hgiven.symm.trans hgiven')

theorem outcome_load (path : Path) : (Config.load path).outcome host st =
    ((host (.readFile path) st).1.mapError (.unreadable path)).bind fun raw =>
      match Utf8.decode? raw with
      | none => .error (.unreadable path .notText)
      | some t => (Config.ofYaml? t).elim (.error .malformed) .ok := by
  rw [← Operation.outcome_ask]
  refine Operation.outcome_bind host st fun raw st => ?_
  cases Utf8.decode? raw with
  | none => rfl
  | some t =>
    simp only
    cases Config.ofYaml? t <;> rfl

/-- **A document is loaded as what it gives**, with what is standard for the rest. -/
theorem outcome_load_eq_ok_iff {path : Path} {c : Config} : (Config.load path).outcome host st = .ok c ↔
    ∃ given, Gives host st (some path) given ∧ c = given.settled := by
  rw [outcome_load]
  constructor
  · intro h
    cases hraw : (host (.readFile path) st).1 with
    | error failure =>
      rw [hraw] at h
      cases h
    | ok raw =>
      cases ht : Utf8.decode? raw with
      | none => simp [hraw, ht, Except.mapError, Except.bind] at h
      | some t =>
        cases hgiven : Config.given? t with
        | none => simp [hraw, ht, hgiven, Except.mapError, Except.bind, Config.ofYaml?_eq] at h
        | some given =>
          simp only [hraw, ht, hgiven, Except.mapError, Except.bind, Config.ofYaml?_eq, Option.map_some,
            Option.elim_some] at h
          exact ⟨given, .document hraw ht hgiven, (Except.ok.inj h).symm⟩
  · rintro ⟨given, hgives, rfl⟩
    cases hgives with
    | document hraw ht hgiven => simp [hraw, ht, hgiven, Except.mapError, Except.bind, Config.ofYaml?_eq]

theorem outcome_document_eq_ok_iff {c : Config} : (document inv).outcome host st = .ok c ↔
    ∃ given, Gives host st inv.config given ∧ c = given.settled := by
  rw [document]
  cases inv.config with
  | none =>
    constructor
    · intro h
      cases h
      exact ⟨_, .nothing, rfl⟩
    · rintro ⟨_, hgives, rfl⟩
      cases hgives
      rfl
  | some path =>
    rw [← outcome_load_eq_ok_iff]
    simp only [Operation.outcome_mapError]
    cases (Config.load path).outcome host st <;> simp [Except.mapError]

theorem outcome_document_eq_error_iff {e : RunError} : (document inv).outcome host st = .error e ↔
    ∃ path fault, inv.config = some path ∧ (Config.load path).outcome host st = .error fault ∧
      e = .loading path fault := by
  rw [document]
  cases inv.config with
  | none =>
    constructor
    · intro h
      cases h
    · rintro ⟨_, _, hnone, -⟩
      cases hnone
  | some path =>
    simp only [Operation.outcome_mapError]
    constructor
    · intro h
      cases hload : (Config.load path).outcome host st with
      | error fault =>
        rw [hload] at h
        exact ⟨path, fault, rfl, hload, (Except.error.inj h).symm⟩
      | ok c =>
        rw [hload] at h
        cases h
    · rintro ⟨_, fault, hpath, hload, rfl⟩
      cases hpath
      rw [hload]
      rfl

theorem outcome_resolve : (resolve inv s).outcome host st =
    ((document inv).outcome host st).bind fun base =>
      match base.overlay s with
      | .error e => .error (.settings (.badSetting e))
      | .ok c => .ok { c with root := inv.root.getD c.root } := by
  refine Operation.outcome_bind host st fun base st => ?_
  rw [Config.overlaid]
  cases base.overlay s <;> rfl

/-- **The settings fail in two ways**: the document cannot be had, or else the word of the environment cannot be read. -/
theorem outcome_resolve_eq_error_iff {e : RunError} : (resolve inv s).outcome host st = .error e ↔
    (∃ path fault, inv.config = some path ∧ (Config.load path).outcome host st = .error fault ∧
      e = .loading path fault) ∨
    ∃ given t, Gives host st inv.config given ∧ s.defaultAttributes = some (Utf8.encode t) ∧
      Attributes.parse? t = none ∧ e = .settings (.badSetting ⟨attributesKey, t⟩) := by
  rw [outcome_resolve, ← outcome_document_eq_error_iff]
  cases hbase : (document inv).outcome host st with
  | error e' =>
    have hnone (given : Given) : ¬ Gives host st inv.config given := by
      intro hgives
      rw [outcome_document_eq_ok_iff.2 ⟨given, hgives, rfl⟩] at hbase
      cases hbase
    simp [hnone, Except.bind]
  | ok base =>
    obtain ⟨given, hgives, -⟩ := outcome_document_eq_ok_iff.1 hbase
    simp only [Except.bind, reduceCtorEq, false_or]
    cases hover : base.overlay s with
    | error bad =>
      obtain ⟨t, hvalue, ht, rfl⟩ := Config.overlay_eq_error_iff.1 hover
      constructor
      · intro h
        exact ⟨given, t, hgives, hvalue, ht, (Except.error.inj h).symm⟩
      · rintro ⟨-, t', -, hvalue', -, rfl⟩
        obtain rfl := Utf8.encode_injective (Option.some.inj (hvalue.symm.trans hvalue'))
        rfl
    | ok c =>
      simp only [reduceCtorEq, false_iff, not_exists, not_and]
      intro _ t _ hvalue ht _
      rw [Config.overlay_eq_error_iff.2 ⟨t, hvalue, ht, rfl⟩] at hover
      cases hover

/-- **Otherwise the settings are those of the highest rank.** -/
theorem outcome_resolve_eq_ok_iff {c : Config} : (resolve inv s).outcome host st = .ok c ↔
    ∃ given, Gives host st inv.config given ∧ RootFrom inv.root s.root given.root c.root ∧
      WordFrom s.defaultAttributes given.defaultAttributes c.defaultAttributes := by
  rw [outcome_resolve]
  simp only [Config.rootFrom_iff, Config.wordFrom_iff]
  constructor
  · intro h
    cases hbase : (document inv).outcome host st with
    | error e =>
      rw [hbase] at h
      cases h
    | ok base =>
      obtain ⟨given, hgives, rfl⟩ := outcome_document_eq_ok_iff.1 hbase
      simp only [hbase, Except.bind] at h
      cases hover : given.settled.overlay s with
      | error bad =>
        rw [hover] at h
        cases h
      | ok c' =>
        obtain ⟨hroot, hword⟩ := Config.overlay_eq_ok_iff.1 hover
        simp only [hover, Except.ok.injEq] at h
        subst h
        exact ⟨given, hgives, by rw [hroot]; rfl, hword⟩
  · rintro ⟨given, hgives, hroot, hword⟩
    have hover : given.settled.overlay s = .ok ⟨(Config.rootOf? s).getD given.settled.root, c.defaultAttributes⟩ :=
      Config.overlay_eq_ok_iff.2 ⟨rfl, hword⟩
    rw [outcome_document_eq_ok_iff.2 ⟨given, hgives, rfl⟩]
    simp only [Except.bind, hover]
    exact congrArg (fun root => Except.ok (Config.mk root c.defaultAttributes)) hroot.symm

/-- **Settings count by rank.**  Finding them fails exactly when the document of the invocation cannot be loaded, or when
it can be, or there is none, and the environment gives a text for the attribute word that is not one; blanks alone are
none.  Whatever the command line gives for a root has no part in this.  Otherwise the root is the one of the command
line, else of the environment, else of the document, else the standard one, and likewise for the word.  So the root
depends on nothing that is said about the word, nor the word on what is said about the root, and the environment laid
over settings twice is no different from once. -/
theorem settings_by_rank (host : {β : Type} → Request Handle β → StateM σ β) (st : σ) (inv : Invocation)
    (s : Surroundings) :
    (∀ e, (resolve inv s).outcome host st = .error e ↔
      (∃ path fault, inv.config = some path ∧ (Config.load path).outcome host st = .error fault ∧
        e = .loading path fault) ∨
      ∃ given t, Gives host st inv.config given ∧ s.defaultAttributes = some (Utf8.encode t) ∧
        Attributes.parse? t = none ∧ e = .settings (.badSetting ⟨attributesKey, t⟩)) ∧
    (∀ t, (∀ c ∈ t, Text.isBlank c = true) → Attributes.parse? t = none) ∧
    (∀ c, (resolve inv s).outcome host st = .ok c ↔
      ∃ given, Gives host st inv.config given ∧ RootFrom inv.root s.root given.root c.root ∧
        WordFrom s.defaultAttributes given.defaultAttributes c.defaultAttributes) ∧
    (∀ st' inv' s' given given' c c', Gives host st inv.config given → Gives host st' (Invocation.config inv') given' →
      (resolve inv s).outcome host st = .ok c → (resolve inv' s').outcome host st' = .ok c' →
      (inv.root = inv'.root → s.root = Surroundings.root s' → given.root = given'.root → c.root = c'.root) ∧
      (s.defaultAttributes = s'.defaultAttributes → given.defaultAttributes = given'.defaultAttributes →
        c.defaultAttributes = c'.defaultAttributes)) ∧
    ∀ c : Config, (c.overlay s).bind (fun c => c.overlay s) = c.overlay s := by
  refine ⟨fun e => outcome_resolve_eq_error_iff, fun t => Attributes.parse?_of_blank,
    fun c => outcome_resolve_eq_ok_iff, ?_, fun c => c.overlay_overlay s⟩
  intro st' inv' s' given given' c c' hgives hgives' hc hc'
  obtain ⟨_, h, hroot, hword⟩ := outcome_resolve_eq_ok_iff.1 hc
  obtain ⟨_, h', hroot', hword'⟩ := outcome_resolve_eq_ok_iff.1 hc'
  obtain rfl := hgives.unique h
  obtain rfl := hgives'.unique h'
  constructor
  · intro hoption hvalue hgiven
    rw [hoption, hvalue, hgiven] at hroot
    exact hroot.unique hroot'
  · intro hvalue hgiven
    rw [hvalue, hgiven] at hword
    exact hword.unique hword'

end Hosts

/-- A document, the environment and the command line, each with a part of the settings. -/
theorem settings_by_rank_mixed :
    let document := "root: /f\ndefault_attributes: 3\n".toList
    let m : Machine := ⟨⟨[([[0x63]], .file (Utf8.encode document))]⟩, [], [], []⟩
    let inv (root : Option Path) (config : Path) : Invocation := ⟨root, some config, .list false⟩
    (m.run (resolve (inv none ⟨[0x63]⟩) ⟨some [0x20, 0x64], none⟩).run).1 = .ok ⟨⟨[0x20, 0x64]⟩, 3⟩ ∧
    (m.run (resolve (inv none ⟨[0x63]⟩) ⟨some [0x20], some [0x39]⟩).run).1 = .ok ⟨⟨[0x2F, 0x66]⟩, 9⟩ ∧
    (m.run (resolve (inv (some ⟨[0x72]⟩) ⟨[0x63]⟩) ⟨some [0x64], some [0x20]⟩).run).1 =
      .error (.settings (.badSetting ⟨attributesKey, [' ']⟩)) ∧
    (m.run (resolve (inv (some ⟨[0x72]⟩) ⟨[0x64]⟩) ⟨none, some [0x20]⟩).run).1 =
      .error (.loading ⟨[0x64]⟩ (.unreadable ⟨[0x64]⟩ .noEntry)) := by
  intro document m inv
  simp only [Machine.fst_run]
  have hgives : Gives Machine.host m (some ⟨[0x63]⟩) ⟨some ⟨[0x2F, 0x66]⟩, some 3⟩ :=
    .document (by decide +kernel) (Utf8.decode?_encode document) (by decide +kernel)
  obtain ⟨-, -, hfirst, -⟩ := settings_by_rank Machine.host m (inv none ⟨[0x63]⟩) ⟨some [0x20, 0x64], none⟩
  obtain ⟨-, -, hsecond, -⟩ := settings_by_rank Machine.host m (inv none ⟨[0x63]⟩) ⟨some [0x20], some [0x39]⟩
  obtain ⟨hthird, hblank, -⟩ :=
    settings_by_rank Machine.host m (inv (some ⟨[0x72]⟩) ⟨[0x63]⟩) ⟨some [0x64], some [0x20]⟩
  obtain ⟨hfourth, -⟩ := settings_by_rank Machine.host m (inv (some ⟨[0x72]⟩) ⟨[0x64]⟩) ⟨none, some [0x20]⟩
  have hspace : ∀ c ∈ [' '], Text.isBlank c = true := List.forall_mem_singleton.2 rfl
  refine ⟨(hfirst _).2 ⟨_, hgives, ?_, ?_⟩, (hsecond _).2 ⟨_, hgives, ?_, ?_⟩,
    (hthird _).2 (.inr ⟨_, [' '], hgives, rfl, hblank _ hspace, rfl⟩),
    (hfourth _).2 (.inl ⟨_, _, rfl, by decide +kernel, rfl⟩)⟩
  · exact RootFrom.environment (t := [' ', 'd']) ⟨'d', List.mem_cons_of_mem _ List.mem_cons_self, rfl⟩ _
  · exact .document (by simp) _
  · refine .document (fun t ht => ?_) _
    have hsame : [' '] = t := Utf8.encode_injective (Option.some.inj ht)
    exact hsame ▸ hspace
  · exact WordFrom.environment (t := ['9']) (by decide +kernel) _

end Program
end FirmwareVars
