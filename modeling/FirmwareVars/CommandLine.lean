import FirmwareVars.CommandLine.Reading
import FirmwareVars.Guid
/-!
# Command lines

What the program is asked to do, read from its arguments.  The arguments before the name of a command belong to the
program, those after it to the command; `--root`, `--config` and `--help` may stand in either place, and what a command
is given for the first two outranks what the program is given.  Mistakes in the arguments of a command are reported
before what is still to be looked at in front of it.
-/
namespace FirmwareVars
namespace CommandLine

inductive Command
  | get (identity : Identity) (raw : Bool)
  | set (identity : Identity) (file : Path) (attributes : Option UInt32)
  | delete (identity : Identity)
  | list (json : Bool)
  | names (out : Option Path) (decode : Bool)
  deriving DecidableEq

/-- The arguments of a command; there is no place in them for anything but options. -/
def readArguments (options : List Opt) (r : Reading) : List Bytes → Except UsageError Given
  | [] => r.settle
  | a :: rest =>
    match Form.of a with
    | .divider => if rest = [] then r.settle else .error .unknownArgument
    | .long body =>
      match takeLong options r body with
      | .ok r => readArguments options r rest
      | .error e => .error e
    | .short letter body =>
      match takeShort options r letter body with
      | .ok r => readArguments options r rest
      | .error e => .error e
    | .plain =>
      match r.pending with
      | some (o, none) => readArguments options ⟨r.given, some (o, some a)⟩ rest
      | _ => .error .unknownArgument

def required {α : Type} : Option α → Except UsageError α
  | some a => .ok a
  | none => .error .missingArgument

def Given.identity (g : Given) : Except UsageError Identity := do
  return ⟨← required g.name, ← required g.guid⟩

/-- The command of a word and what it was given. -/
def Given.command (g : Given) : Verb → Except UsageError Command
  | .get => do return .get (← g.identity) g.raw
  | .set => do return .set (← g.identity) (← required g.file) g.attributes
  | .delete => do return .delete (← g.identity)
  | .list => .ok (.list g.json)
  | .names => if g.decode && g.out.isSome then .error .conflict else .ok (.names g.out g.decode)

structure Invocation where
  root : Option Path
  config : Option Path
  command : Command
  deriving DecidableEq

/-- Help was asked for by a word, perhaps about one command. -/
def readHelp : List Bytes → UsageError
  | [] => .help
  | [a] => if (Verb.ofWord? a).isSome || a == helpWord then .help else .invalidCommand
  | _ => .invalidCommand

/-- The command of a word with its arguments, under what the program itself was given. -/
def finish (r : Reading) (v : Verb) (arguments : List Bytes) : Except UsageError Invocation := do
  let inner ← readArguments v.options .start arguments
  let command ← inner.command v
  let outer ← r.settle
  return ⟨inner.root.or outer.root, inner.config.or outer.config, command⟩

/-- A command line without a command. -/
def withoutCommand (r : Reading) : UsageError :=
  match r.settle with
  | .error e => e
  | .ok given => if given = .nothing then .helpInstead else .missingCommand

/-- The arguments of the program up to the name of a command. -/
def readFront (r : Reading) : List Bytes → Except UsageError Invocation
  | [] => .error (withoutCommand r)
  | a :: rest =>
    let verb := if r.isWaiting then none else Verb.ofWord? a
    match verb with
    | some v => finish r v rest
    | none =>
      if !r.isWaiting && a == helpWord then .error (readHelp rest)
      else match Form.of a with
        | .divider =>
          match rest with
          | [] => .error (withoutCommand r)
          | b :: _ =>
            .error (if (Verb.ofWord? b).isSome || b == helpWord then .unknownArgument else .invalidCommand)
        | .long body =>
          match takeLong Opt.common r body with
          | .ok r => readFront r rest
          | .error e => .error e
        | .short letter body =>
          match takeShort Opt.common r letter body with
          | .ok r => readFront r rest
          | .error e => .error e
        | .plain =>
          match r.pending with
          | some (o, none) => readFront ⟨r.given, some (o, some a)⟩ rest
          | _ => .error .invalidCommand

/-- What the arguments ask for, or why they ask for nothing. -/
def read (arguments : List Bytes) : Except UsageError Invocation := readFront .start arguments

end CommandLine
end FirmwareVars
