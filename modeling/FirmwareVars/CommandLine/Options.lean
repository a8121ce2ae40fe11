import FirmwareVars.Attributes
import FirmwareVars.Guid
import FirmwareVars.Host.Path
/-!
# Command-line options

The commands of the program, the options that each of them takes, and what the values of options are.  A path must not
be empty, a name is any text, and an option must not be given twice.
-/
namespace FirmwareVars
namespace CommandLine

/-- What is wrong with a command line, or why it runs no command. -/
inductive UsageError
  /-- An option lacks its value, or has an empty one where there must be something. -/
  | invalidValue
  | unknownArgument
  | invalidCommand
  | rejectedValue
  /-- A value for an option that takes none. -/
  | unwantedValue
  /-- An option given twice, or two that exclude each other. -/
  | conflict
  | missingArgument
  | missingCommand
  | notText
  | help
  /-- Without any argument the program shows its help. -/
  | helpInstead
  deriving DecidableEq, Repr

/-- The exit status: asking for help is no mistake. -/
def UsageError.exitStatus : UsageError → Nat
  | .help => 0
  | _ => 2

inductive Verb
  | get
  | set
  | delete
  | list
  | names
  deriving DecidableEq, Repr

inductive Opt
  | root
  | config
  | help
  | name
  | guid
  | raw
  | file
  | attributes
  | json
  | out
  | decode
  deriving DecidableEq, Repr

namespace Opt

/-- The name behind two dashes. -/
def long : Opt → Text
  | .root => "root".toList
  | .config => "config".toList
  | .help => "help".toList
  | .name => "name".toList
  | .guid => "guid".toList
  | .raw => "raw".toList
  | .file => "file".toList
  | .attributes => "attributes".toList
  | .json => "json".toList
  | .out => "out".toList
  | .decode => "decode".toList

/-- The letter behind one dash. -/
def short? : Opt → Option Char
  | .help => some 'h'
  | .name => some 'n'
  | .guid => some 'g'
  | .file => some 'f'
  | .attributes => some 'a'
  | .out => some 'o'
  | _ => none

/-- Goes without a value. -/
def isFlag : Opt → Bool
  | .help | .raw | .json | .decode => true
  | _ => false

/-- What may be given everywhere. -/
def common : List Opt := [.root, .config, .help]

end Opt

namespace Verb

def word : Verb → Text
  | .get => "get".toList
  | .set => "set".toList
  | .delete => "delete".toList
  | .list => "list".toList
  | .names => "names".toList

def all : List Verb := [.get, .set, .delete, .list, .names]

def ofWord? (argument : Bytes) : Option Verb := all.find? fun v => Utf8.encode v.word == argument

def options : Verb → List Opt
  | .get => [.name, .guid, .raw] ++ Opt.common
  | .set => [.name, .guid, .file, .attributes] ++ Opt.common
  | .delete => [.name, .guid] ++ Opt.common
  | .list => [.json] ++ Opt.common
  | .names => [.out, .decode] ++ Opt.common

end Verb

def helpWord : Bytes := Utf8.encode "help".toList

/-! ## Values -/

structure Given where
  root : Option Path
  config : Option Path
  name : Option Text
  guid : Option Guid
  file : Option Path
  attributes : Option UInt32
  out : Option Path
  raw : Bool
  json : Bool
  decode : Bool
  deriving DecidableEq

def Given.nothing : Given := ⟨none, none, none, none, none, none, none, false, false, false⟩

/-- A path, which must not be empty. -/
def readPath (value : Bytes) : Except UsageError Path := if value = [] then .error .invalidValue else .ok ⟨value⟩

def readText (value : Bytes) : Except UsageError Text :=
  match Utf8.decode? value with
  | some t => .ok t
  | none => .error .notText

/-- A text that something else is read from. -/
def readFrom {α : Type} (read? : Text → Option α) (value : Bytes) : Except UsageError α :=
  match readText value with
  | .error e => .error e
  | .ok t =>
    match read? t with
    | some a => .ok a
    | none => .error .rejectedValue

/-- The value of an option that must not have one yet. -/
def fill {α : Type} (old : Option α) (value : Except UsageError α) : Except UsageError (Option α) :=
  match old with
  | some _ => .error .conflict
  | none =>
    match value with
    | .ok a => .ok (some a)
    | .error e => .error e

/-- A flag that must not have been raised yet. -/
def raise (old : Bool) : Except UsageError Bool := if old then .error .conflict else .ok true

/-- What was given with one more option; the value of a flag does not count. -/
def Given.take (g : Given) (o : Opt) (value : Bytes) : Except UsageError Given :=
  match o with
  | .root => do return { g with root := ← fill g.root (readPath value) }
  | .config => do return { g with config := ← fill g.config (readPath value) }
  | .name => do return { g with name := ← fill g.name (readText value) }
  | .guid => do return { g with guid := ← fill g.guid (readFrom Guid.parse? value) }
  | .file => do return { g with file := ← fill g.file (readPath value) }
  | .attributes => do return { g with attributes := ← fill g.attributes (readFrom Attributes.parse? value) }
  | .out => do return { g with out := ← fill g.out (readPath value) }
  | .raw => do return { g with raw := ← raise g.raw }
  | .json => do return { g with json := ← raise g.json }
  | .decode => do return { g with decode := ← raise g.decode }
  | .help => .error .help

end CommandLine
end FirmwareVars
