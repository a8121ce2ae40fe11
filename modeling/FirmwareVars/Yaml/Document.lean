import FirmwareVars.Yaml.Part
/-!
# YAML documents

A document after its aliases are resolved.  Anchors are numbered as they come: a new one by how many names are known
before it, so a name given again gets a number that the next new name gets too.  An alias stands for the number that
its name has where the alias is, and a number for the node that was numbered so last in the whole document.

`Document.read?` goes all the way from a text; `target?` and `pairs?` are what readers of settings need: what an alias
stands for, and the pairs of a mapping by the first parts of their keys and values.
-/
namespace FirmwareVars
namespace Yaml

/-- A part whose alias is a number. -/
inductive Resolved
  | part (p : Part)
  | reference (number : Nat)
  deriving DecidableEq

structure Anchors where
  /-- The number of each name. -/
  names : List (Text × Nat)
  /-- The first part of the node of each number, latest first. -/
  targets : List (Nat × Part)

namespace Anchors

def none : Anchors := ⟨[], []⟩

def number? (a : Anchors) (name : Text) : Option Nat := (a.names.find? fun entry => entry.1 == name).map Prod.snd

def add (a : Anchors) (name : Option Text) (node : Part) : Anchors :=
  match name with
  | .none => a
  | some name =>
    let number := a.names.length
    ⟨(name, number) :: a.names.filter (fun entry => entry.1 != name), (number, node) :: a.targets⟩

/-- The first part of the node of a number. -/
def node? (a : Anchors) (number : Nat) : Option Part :=
  (a.targets.find? fun entry => entry.1 == number).map Prod.snd

end Anchors

def Part.anchor? : Part → Option Text
  | .scalar p _ _ | .sequence p | .mapping p => p.anchor
  | .alias _ | .close => none

/-- A document: its parts, and the anchors in it. -/
structure Document where
  parts : List Resolved
  anchors : Anchors

namespace Document

/-- Numbers the aliases of parts; one without an anchor before it is an error. -/
def resolve (a : Anchors) : List Part → Option (List Resolved × Anchors)
  | [] => some ([], a)
  | .alias name :: rest =>
    match a.number? name, resolve a rest with
    | some n, some (parts, a) => some (.reference n :: parts, a)
    | _, _ => none
  | p :: rest => (resolve (a.add p.anchor? p) rest).map fun (parts, a) => (.part p :: parts, a)

/-- The document of a text; a text without one has no parts. -/
def read? (t : Text) : Option Document := do
  let source ← source? t
  let tokens ← Token.scan? source
  let parts ← Part.ofTokens? tokens
  let (parts, anchors) ← resolve .none parts
  return ⟨parts, anchors⟩

/-- The first part of the node that a part stands for. -/
def target? (d : Document) : Resolved → Option Part
  | .part p => some p
  | .reference n => d.anchors.node? n

def opens : Resolved → Bool
  | .part (.sequence _) | .part (.mapping _) => true
  | _ => false

/-- The first parts of the items of a collection, of which `depth` collections inside are still open. -/
def heads : Nat → List Resolved → List Resolved
  | _, [] => []
  | 0, .part .close :: _ => []
  | depth + 1, .part .close :: rest => heads depth rest
  | 0, p :: rest => p :: heads (if opens p then 1 else 0) rest
  | depth + 1, p :: rest => heads (if opens p then depth + 2 else depth + 1) rest

/-- Two by two. -/
def pairUp : List Resolved → List (Resolved × Resolved)
  | key :: value :: rest => (key, value) :: pairUp rest
  | _ => []

/-- The pairs of the mapping that the document is.  A document that is missing is a mapping without any. -/
def pairs? (d : Document) : Option (List (Resolved × Resolved)) :=
  match d.parts with
  | [] => some []
  | .part (.mapping _) :: rest => some (pairUp (heads 0 rest))
  | .part (.scalar _ .plain []) :: _ => some []
  | _ => none

end Document
end Yaml
end FirmwareVars
