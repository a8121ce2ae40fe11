import FirmwareVars.Host.FileSystem
import FirmwareVars.Host.Script
/-!
# Machines

A host as a value: its files, the directory in which the program runs, the events it was told of, and what was printed,
write by write.  `answer` answers one request, and `run` carries out a whole script, so what a script does to the files
is a function of the files.  The standard output of a machine takes all that is written to it.
-/
namespace FirmwareVars

structure Machine where
  files : FileSystem
  cwd : Location
  events : List Event
  printed : List Bytes

namespace Machine

/-- The answer to an operation that gives new files, and the machine after it. -/
def settle (m : Machine) : Except Failure FileSystem → Except Failure Unit × Machine
  | .ok files => (.ok (), { m with files := files })
  | .error failure => (.error failure, m)

/-- The answer to a request, and the machine after it.  An open file is known by its location. -/
def answer {β : Type} (r : Request Location β) (m : Machine) : β × Machine :=
  match r with
  | .readFile p => (m.files.read m.cwd p, m)
  | .readDirectory p => (m.files.list m.cwd p, m)
  | .openEmptied p =>
    match m.files.openEmptied m.cwd p with
    | .ok (loc, files) => (.ok loc, { m with files := files })
    | .error failure => (.error failure, m)
  | .writeAll loc bytes => m.settle (m.files.write loc bytes)
  | .removeFile p => m.settle (m.files.remove m.cwd p)
  | .createDirectories p => m.settle (m.files.makeDirectories m.cwd p)
  | .removeTree p => m.settle (m.files.removeTree m.cwd p)
  | .print bytes => (.ok (), { m with printed := m.printed ++ [bytes] })
  | .flush => (.ok (), m)
  | .tell event => ((), { m with events := m.events ++ [event] })

/-- Carries out a script: its value, and the machine after it. -/
def run {α : Type} (m : Machine) : Script Location α → α × Machine
  | .done a => (a, m)
  | .ask r next =>
    let (b, m) := m.answer r
    run m (next b)

end Machine
end FirmwareVars
