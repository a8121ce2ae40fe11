import FirmwareVars.Attributes
import FirmwareVars.Host.Path
import FirmwareVars.Identity.Json
import FirmwareVars.NameRecord
/-!
# Reports

What the commands print when they succeed: a variable in five labelled lines, a store as a table or as JSON, name
records one a line, and one line for what was written or deleted.  A report of several lines is the list of them, each
with its end, since they are printed one by one.
-/
namespace FirmwareVars
namespace Report

def line (t : Text) : Text := t ++ ['\n']

/-- A variable, its payload as hexadecimal digits. -/
def content (i : Identity) (v : Variable) : List Text :=
  [line ("Name: ".toList ++ i.name),
   line ("Guid: ".toList ++ i.guid.spell),
   line ("Attributes: ".toList ++ v.attributes.hex ++ [' '] ++ v.attributes.describe),
   line ("Size: ".toList ++ Numeral.decimal v.payload.length),
   line ("Data: ".toList ++ Bytes.hexDump v.payload)]

def written (i : Identity) (bytes : Nat) : Text :=
  line ("Wrote ".toList ++ i.spell ++ " (".toList ++ Numeral.decimal bytes ++ " bytes)".toList)

/-- A variable that was deleted, or that there was nothing of. -/
def deleted (i : Identity) (found : Bool) : Text :=
  line ((if found then "Deleted ".toList else "No such variable ".toList) ++ i.spell)

def tableHead : Text := line ("Guid".toList ++ List.replicate 5 '\t' ++ "Name".toList)

def tableRow (i : Identity) : Text := line (i.guid.spell ++ ['\t'] ++ i.name)

def table (is : List Identity) : List Text :=
  if is = [] then [line "(no variables)".toList] else tableHead :: is.map tableRow

def json (is : List Identity) : Text := line (Identity.listToJson is)

/-- A name record: where it is, how far the next one is, and whose it is. -/
def record (r : NameRecord) : Text :=
  line (Text.padLeft 6 (Numeral.decimal r.offset) ++ ['\t'] ++ Text.padLeft 6 (Numeral.decimal r.next.toNat) ++
    ['\t'] ++ r.guid.spell ++ ['\t'] ++ r.name)

def records (rs : List NameRecord) : List Text := rs.map record

/-- A buffer that was saved to a file. -/
def saved (path : Path) (bytes : Nat) : Text :=
  line ("Wrote ".toList ++ Numeral.decimal bytes ++ " bytes to ".toList ++ path.display)

end Report
end FirmwareVars
