import FirmwareVars.Host.Script
/-!
# Log records

An event as it is logged: a level, the part of the program that speaks, a message, and fields with names.  `ofEvent`
holds the wording of every event.  A record is laid out in one of two ways, each without the time at its front: as a
line for people (`toLine`) or as the members of a JSON object (`toJsonMembers`).

The time is an `Instant`, in Coordinated Universal Time to the microsecond: `2024-02-29T12:00:00.000000Z`.  Days are
counted from the first of March of the year 0, so that a leap day is the last of its year.
-/
namespace FirmwareVars
namespace Log

/-- How much a record matters, the most important first. -/
inductive Level
  | error
  | warn
  | info
  | debug
  | trace
  deriving DecidableEq, Repr

/-- The place of a level, from one for errors to five for traces. -/
def Level.rank : Level → Nat
  | .error => 1
  | .warn => 2
  | .info => 3
  | .debug => 4
  | .trace => 5

def Level.name : Level → Text
  | .error => "ERROR".toList
  | .warn => "WARN".toList
  | .info => "INFO".toList
  | .debug => "DEBUG".toList
  | .trace => "TRACE".toList

inductive Value
  | number (n : Nat)
  /-- Text that stands as it is in a line. -/
  | shown (t : Text)
  /-- Text that is quoted in a line. -/
  | quoted (t : Text)
  deriving DecidableEq

structure Field where
  name : Text
  value : Value
  deriving DecidableEq

structure Record where
  level : Level
  target : Text
  message : Text
  fields : List Field
  deriving DecidableEq

def programTarget : Text := "efivarctl".toList

def storeTarget : Text := "efivarfs_store".toList

def recordTarget : Text := "efivar_codec::record".toList

def sandboxTarget : Text := "sim_efivarfs".toList

namespace Field

def count (name : String) (n : Nat) : Field := ⟨name.toList, .number n⟩
def path (name : String) (p : Path) : Field := ⟨name.toList, .shown p.display⟩
def text (name : String) (t : Text) : Field := ⟨name.toList, .shown t⟩

end Field

namespace Record

def ofEvent : Event → Record
  | .resolvedConfig c =>
    ⟨.debug, programTarget, "Resolved store config".toList, [.text "config" c.describe]⟩
  | .readVariable p bytes =>
    ⟨.debug, storeTarget, "Read variable".toList, [.path "path" p, .count "bytes" bytes]⟩
  | .wroteVariable p a bytes =>
    ⟨.debug, storeTarget, "Wrote variable".toList,
      [.path "path" p, .count "attributes" a.word.toNat, .count "bytes" bytes]⟩
  | .deletedVariable p => ⟨.info, storeTarget, "Deleted variable".toList, [.path "path" p]⟩
  | .nothingToDelete p => ⟨.debug, storeTarget, "Nothing to delete".toList, [.path "path" p]⟩
  | .unreadableEntry shown =>
    ⟨.warn, storeTarget, "Rejecting non UTF-8 store entry".toList, [.text "entry" shown]⟩
  | .malformedEntry entry e =>
    ⟨.warn, storeTarget, "Aborting enumeration on malformed entry".toList,
      [.text "entry" entry, .text "error" e.message]⟩
  | .listedStore root n =>
    ⟨.debug, storeTarget, "Listed store".toList, [.path "root" root, .count "variables" n]⟩
  | .packedNames records bytes =>
    ⟨.debug, recordTarget, "Packed variable name records".toList,
      [.count "records" records, .count "bytes" bytes]⟩
  | .enumeratedNames root records bytes =>
    ⟨.info, storeTarget, "Enumerated variable names".toList,
      [.path "root" root, .count "records" records, .count "bytes" bytes]⟩
  | .startedSandbox root =>
    ⟨.info, sandboxTarget, "Starting efivarfs simulation".toList, [.path "root" root]⟩
  | .seededEntry entry bytes =>
    ⟨.debug, sandboxTarget, "Seeded entry".toList, [⟨"entry".toList, .quoted entry⟩, .count "bytes" bytes]⟩

/-! ## Layouts -/

def valueText : Value → Text
  | .number n => Numeral.decimal n
  | .shown t => t
  | .quoted t => Text.quote t

/-- The record as a line: level, target, message and fields. -/
def toLine (r : Record) : Text :=
  Text.padLeft 5 r.level.name ++ [' '] ++ r.target ++ ": ".toList ++ r.message ++
    r.fields.flatMap fun f => [' '] ++ f.name ++ ['='] ++ valueText f.value

def valueJson : Value → Text
  | .number n => Numeral.decimal n
  | .shown t | .quoted t => Json.quote t

/-- The members of the record's JSON object: level, message, fields and target. -/
def toJsonMembers (r : Record) : Text :=
  let members :=
    [⟨"level".toList, .shown r.level.name⟩, ⟨"message".toList, .shown r.message⟩] ++ r.fields ++
      [⟨"target".toList, .shown r.target⟩]
  Text.joinWith [','] (members.map fun f : Field => Json.quote f.name ++ [':'] ++ valueJson f.value)

end Record

/-! ## The time at the front -/

/-- A moment by the seconds since the beginning of 1970, and the microseconds since then. -/
structure Instant where
  seconds : Nat
  micros : Nat
  deriving DecidableEq

structure Day where
  year : Nat
  month : Nat
  day : Nat
  deriving DecidableEq

/-- The days from the first of March of the year 0 to the beginning of 1970. -/
def daysBefore1970 : Nat := 719468

/-- The days of four hundred years. -/
def daysOf400 : Nat := 146097

/-- The day that comes a number of days after the beginning of 1970. -/
def Day.ofCount (days : Nat) : Day :=
  let n := days + daysBefore1970
  let inEra := n % daysOf400
  let yearOfEra := (inEra - inEra / 1460 + inEra / 36524 - inEra / 146096) / 365
  let inYear := inEra - (365 * yearOfEra + yearOfEra / 4 - yearOfEra / 100)
  let fromMarch := (5 * inYear + 2) / 153
  let month := if fromMarch < 10 then fromMarch + 3 else fromMarch - 9
  let year := yearOfEra + 400 * (n / daysOf400)
  ⟨if month ≤ 2 then year + 1 else year, month, inYear - (153 * fromMarch + 2) / 5 + 1⟩

def Instant.spell (i : Instant) : Text :=
  let day := Day.ofCount (i.seconds / 86400)
  let second := i.seconds % 86400
  let two (n : Nat) : Text := Numeral.spellFixed 10 2 n
  Numeral.spellFixed 10 4 day.year ++ ['-'] ++ two day.month ++ ['-'] ++ two day.day ++ ['T'] ++
    two (second / 3600) ++ [':'] ++ two (second / 60 % 60) ++ [':'] ++ two (second % 60) ++ ['.'] ++
    Numeral.spellFixed 10 6 i.micros ++ ['Z']

example : (⟨1709208000, 42⟩ : Instant).spell = "2024-02-29T12:00:00.000042Z".toList := by decide +kernel

inductive Layout
  | line
  | json
  deriving DecidableEq, Repr

/-- The layout that the environment asks for; anything but the word for JSON, in any case of its letters, means
lines. -/
def Layout.ofEnvironment (value : Option Bytes) : Layout :=
  match value.bind Utf8.decode? with
  | some t => if Text.sameLetters t "json".toList then .json else .line
  | none => .line

/-- A record in a layout, with the time at its front. -/
def Layout.render (layout : Layout) (time : Text) (r : Record) : Text :=
  match layout with
  | .line => time ++ [' '] ++ r.toLine
  | .json => "\x7b\"timestamp\":".toList ++ Json.quote time ++ [','] ++ r.toJsonMembers ++ "\x7d".toList

end Log
end FirmwareVars
