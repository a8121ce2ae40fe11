import FirmwareVars.Log.Filter
import FirmwareVars.Program
import Std.Time.DateTime.Timestamp
/-!
# The program on a real host

Requests are answered from the files of the machine that the program runs on, and events go to the standard error
stream as far as the log's filter lets them through.  All that is decided is decided elsewhere: this module only passes
requests on and prints what comes back.
-/
namespace FirmwareVars
namespace Host

/-- The failure that an exception of the host stands for. -/
def failureOf : IO.Error → Failure
  | .alreadyExists _ code words | .invalidArgument _ code words | .permissionDenied _ code words
  | .resourceExhausted _ code words | .inappropriateType _ code words | .noSuchThing _ code words
  | .interrupted _ code words | .noFileOrDirectory _ code words | .otherError code words
  | .resourceBusy code words | .resourceVanished code words | .unsupportedOperation code words
  | .hardwareFault code words | .unsatisfiedConstraints code words | .illegalOperation code words
  | .protocolError code words | .timeExpired code words => .ofNumber code.toNat words.toList
  | .unexpectedEof => .stated "unexpected end of file".toList
  | .userError words => .stated words.toList

/-- Does something that may throw, and takes what it throws as a failure. -/
def attempt {α : Type} (action : IO α) : IO (Except Failure α) := do
  try
    return .ok (← action)
  catch e => return .error (failureOf e)

/-- Does something with a path, if the path is one that this host can be given. -/
def withPath {α : Type} (p : Path) (action : String → IO α) : IO (Except Failure α) :=
  if p.bytes.contains 0 then pure (.error .nulInPath)
  else match Utf8.decode? p.bytes with
    | some t => attempt (action (String.ofList t))
    | none => pure (.error .notText)

def block (bs : Bytes) : ByteArray := ⟨bs.toArray⟩

/-- What the log wants and how it looks. -/
structure Logger where
  filter : Log.Filter
  layout : Log.Layout

def now : IO Log.Instant := do
  let t ← Std.Time.Timestamp.now
  return ⟨t.val.second.val.toNat, t.val.nano.val.toNat / 1000⟩

/-- Writes an event to the standard error stream, if the log wants it. -/
def log (l : Logger) (event : Event) : IO Unit := do
  let record := Log.Record.ofEvent event
  if l.filter.admits record then
    let stderr ← IO.getStderr
    stderr.putStrLn (String.ofList (l.layout.render (← now).spell record))

/-- Answers a request from the host's files. -/
def answer (l : Logger) {β : Type} (r : Request IO.FS.Handle β) : IO β :=
  match r with
  | .readFile p => withPath p fun name => do return (← IO.FS.readBinFile name).toList
  | .readDirectory p => withPath p fun name => do
    let entries ← (System.mkFilePath [name]).readDir
    return entries.toList.map fun entry => Utf8.encode entry.fileName.toList
  | .openEmptied p => withPath p fun name => IO.FS.Handle.mk name .write
  | .writeAll file bytes => attempt do
    file.write (block bytes)
    file.flush
  | .removeFile p => withPath p fun name => IO.FS.removeFile name
  | .createDirectories p => withPath p fun name => IO.FS.createDirAll name
  | .removeTree p => withPath p fun name => IO.FS.removeDirAll name
  | .print bytes => attempt do (← IO.getStdout).write (block bytes)
  | .flush => attempt do (← IO.getStdout).flush
  | .tell event => log l event

def environment (name : Text) : IO (Option Bytes) := do
  return (← IO.getEnv (String.ofList name)).map fun value => Utf8.encode value.toList

/-- What is said about a command line that runs nothing. -/
def usage : CommandLine.UsageError → String
  | .help | .helpInstead =>
    "Usage: efivarctl [--root DIRECTORY] [--config FILE] get | set | delete | list | names [OPTIONS]"
  | .invalidValue => "error: an option lacks its value"
  | .unknownArgument => "error: unexpected argument"
  | .invalidCommand => "error: unrecognized command"
  | .rejectedValue => "error: invalid value"
  | .unwantedValue => "error: unexpected value"
  | .conflict => "error: an option cannot be used here again, or with another one"
  | .missingArgument => "error: a required option was not provided"
  | .missingCommand => "error: a command is required"
  | .notText => "error: a value is not UTF-8"

/-- Runs the program on its arguments, and returns the exit status. -/
def run (arguments : List String) : IO UInt32 := do
  let stderr ← IO.getStderr
  match CommandLine.read (arguments.map fun a => Utf8.encode a.toList) with
  | .error e =>
    if e = .help then (← IO.getStdout).putStrLn (usage e) else stderr.putStrLn (usage e)
    return UInt32.ofNat e.exitStatus
  | .ok inv =>
    let filter ← environment "RUST_LOG".toList
    let layout ← environment "EFIVAR_LOG_FORMAT".toList
    let logger : Logger := ⟨.ofEnvironment filter, .ofEnvironment layout⟩
    let surroundings : Surroundings := ⟨← environment rootKey, ← environment attributesKey⟩
    let outcome ← Script.perform (answer logger) (Program.run inv surroundings).run
    if let some complaint := Program.complaint? outcome then
      stderr.putStrLn (String.ofList complaint)
    return UInt32.ofNat (Program.exitStatus outcome)

end Host
end FirmwareVars

def main (arguments : List String) : IO UInt32 := FirmwareVars.Host.run arguments
