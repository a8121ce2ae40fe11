import FirmwareVars.Host.Failure
import FirmwareVars.Host.Path
/-!
# File systems

The files of a host as a value: what stands at each location, where a location is the list of entry names that leads
to it from the root of all directories.  Entries keep the order in which they were made.

`locate` follows a path component by component, and symbolic links with it, to the location it leads to, which may
still be free; the operations below it say what the host does at that location.  They fail as a POSIX host does: an
entry name has at most 255 bytes, a path fewer than 4096, at most forty links are followed, and a component of a path
that is not the last has to be a directory.
-/
namespace FirmwareVars

/-- A file that stands for a device. -/
inductive Device
  /-- Takes everything and keeps nothing. -/
  | null
  /-- Has no room for a single byte. -/
  | full
  deriving DecidableEq

inductive Node
  | file (contents : Bytes)
  | directory
  /-- A symbolic link, with the path it stands for. -/
  | link (target : Path)
  | device (kind : Device)
  deriving DecidableEq

/-- The paths that a node is made of. -/
def Node.paths : Node → List Path
  | .link target => [target]
  | _ => []

/-- The entry names that lead to a file from the root of all directories. -/
abbrev Location := List Bytes

/-- The nodes of a host by location.  The root of all directories is always there and not among them. -/
structure FileSystem where
  nodes : List (Location × Node)
  deriving DecidableEq

namespace FileSystem

def empty : FileSystem := ⟨[]⟩

/-- The node at a location, if it is taken. -/
def lookup (fs : FileSystem) : Location → Option Node
  | [] => some .directory
  | loc => (fs.nodes.find? fun entry => entry.1 == loc).map Prod.snd

/-- Puts a node into a list in place of the one at the location, or at the end. -/
def put (loc : Location) (node : Node) : List (Location × Node) → List (Location × Node)
  | [] => [(loc, node)]
  | entry :: rest => if entry.1 = loc then (loc, node) :: rest else entry :: put loc node rest

def insert (fs : FileSystem) (loc : Location) (node : Node) : FileSystem := ⟨put loc node fs.nodes⟩

def erase (fs : FileSystem) (loc : Location) : FileSystem := ⟨fs.nodes.filter fun entry => entry.1 != loc⟩

/-- The last entry name of a location that lies directly below `loc`. -/
def childName? (loc other : Location) : Option Bytes :=
  if other ≠ [] ∧ other.dropLast = loc then other.getLast? else none

/-- The entry names directly below a location, oldest first. -/
def children (fs : FileSystem) (loc : Location) : List Bytes :=
  fs.nodes.filterMap fun entry => childName? loc entry.1

/-! ## Following a path -/

/-- The most bytes an entry name may have. -/
def nameLimit : Nat := 255

/-- The bytes that are too many for a path. -/
def pathLimit : Nat := 4096

/-- The most links that one path may lead through. -/
def linkLimit : Nat := 40

/-- How far a path leads without following another link. -/
inductive Stop
  | found (loc : Location)
  /-- To a link in the directory `dir`, with more components behind it. -/
  | link (dir : Location) (target : Path) (rest : List Bytes)

/-- Goes along components from a location up to the first link to be followed.  A link at the very end is followed
when `follow` says so. -/
def advance (fs : FileSystem) (follow : Bool) : Location → List Bytes → Except Failure Stop
  | loc, [] => .ok (.found loc)
  | loc, c :: rest =>
    match fs.lookup loc with
    | some .directory =>
      if c = Path.here then advance fs follow loc rest
      else if c = Path.up then advance fs follow loc.dropLast rest
      else if nameLimit < c.length then .error .nameTooLong
      else
        let next := loc ++ [c]
        match fs.lookup next with
        | some (.link target) =>
          if rest = [] ∧ !follow then .ok (.found next) else .ok (.link loc target rest)
        | some _ => advance fs follow next rest
        | none => if rest = [] then .ok (.found next) else .error .noEntry
    | _ => .error .notDirectory

/-- Where a path starts: at the root of all directories, or at a given location. -/
def base (loc : Location) (p : Path) : Location := if p.isAbsolute then [] else loc

/-- Goes along components and through at most `budget` links. -/
def follow (fs : FileSystem) (last : Bool) : Nat → Location → List Bytes → Except Failure Location
  | budget, loc, components =>
    match advance fs last loc components with
    | .error failure => .error failure
    | .ok (.found loc) => .ok loc
    | .ok (.link dir target rest) =>
      match budget with
      | 0 => .error .linkLoop
      | budget + 1 => follow fs last budget (base dir target) (target.components ++ rest)

/-- What is wrong with the length of a path. -/
def lengthFault? (p : Path) : Option Failure :=
  if p.bytes = [] then some .noEntry else if pathLimit ≤ p.bytes.length then some .nameTooLong else none

/-- What is wrong with the paths of one request before the first directory is looked at.  The host is not even asked
when a NUL is in any of them; else it finds fault with the first that has a wrong length. -/
def pathsFault? (ps : List Path) : Option Failure :=
  if ps.any fun p => p.bytes.contains 0 then some .nulInPath else ps.findSome? lengthFault?

/-- What is wrong with a path before the first directory is looked at. -/
def pathFault? (p : Path) : Option Failure := pathsFault? [p]

/-- The location that a path leads to from the directory `cwd`. -/
def locate (fs : FileSystem) (cwd : Location) (last : Bool) (p : Path) : Except Failure Location :=
  match pathFault? p with
  | some failure => .error failure
  | none => follow fs last linkLimit (base cwd p) p.components

/-- The node that a path leads to, through all links. -/
def nodeAt (fs : FileSystem) (cwd : Location) (p : Path) : Except Failure Node :=
  match fs.locate cwd true p with
  | .error failure => .error failure
  | .ok loc =>
    match fs.lookup loc with
    | some node => .ok node
    | none => .error .noEntry

/-! ## Operations -/

def contentsOf : Node → Except Failure Bytes
  | .file bytes => .ok bytes
  | .directory => .error .isDirectory
  | .link _ => .error .linkLoop
  | .device _ => .ok []

def read (fs : FileSystem) (cwd : Location) (p : Path) : Except Failure Bytes :=
  match fs.nodeAt cwd p with
  | .error failure => .error failure
  | .ok node => contentsOf node

def list (fs : FileSystem) (cwd : Location) (p : Path) : Except Failure (List Bytes) :=
  match fs.locate cwd true p with
  | .error failure => .error failure
  | .ok loc =>
    match fs.lookup loc with
    | some .directory => .ok (fs.children loc)
    | some _ => .error .notDirectory
    | none => .error .noEntry

/-- The location at which a file is opened that may have to be made, from components and whether a separator ends
them.  A separator at the end of the path, or of a link that the path ends in, asks for a directory: what stands before
the last component has to be there, and whether the directory is there as well is not looked at. -/
def place (fs : FileSystem) : Nat → Location → List Bytes → Bool → Except Failure Location
  | budget, loc, components, true =>
    match follow fs true budget loc (components.dropLast ++ [Path.here]) with
    | .error failure => .error failure
    | .ok _ => .error .isDirectory
  | budget, loc, components, false =>
    match advance fs true loc components with
    | .error failure => .error failure
    | .ok (.found loc) => .ok loc
    | .ok (.link dir target rest) =>
      match budget with
      | 0 => .error .linkLoop
      | budget + 1 =>
        if rest = [] then place fs budget (base dir target) (Path.segments target.bytes) target.endsOpen
        else place fs budget (base dir target) (target.components ++ rest) false

/-- Opens a file for writing: made if it is missing, emptied if it is there. -/
def openEmptied (fs : FileSystem) (cwd : Location) (p : Path) : Except Failure (Location × FileSystem) :=
  match pathFault? p with
  | some failure => .error failure
  | none =>
    match fs.place linkLimit (base cwd p) (Path.segments p.bytes) p.endsOpen with
    | .error failure => .error failure
    | .ok loc =>
      match fs.lookup loc with
      | some .directory => .error .isDirectory
      | some (.device _) => .ok (loc, fs)
      | _ => .ok (loc, fs.insert loc (.file []))

/-- Bytes written over others from their start; what is behind them stays. -/
def overwrite (old new : Bytes) : Bytes := new ++ old.drop new.length

/-- Writes to the file at a location, from its start. -/
def write (fs : FileSystem) (loc : Location) (bytes : Bytes) : Except Failure FileSystem :=
  match fs.lookup loc with
  | some (.file old) => .ok (fs.insert loc (.file (overwrite old bytes)))
  | some (.device .full) => if bytes = [] then .ok fs else .error .noSpace
  | _ => .ok fs

/-- Removes an entry that is not a directory; a link is removed and not what it leads to. -/
def remove (fs : FileSystem) (cwd : Location) (p : Path) : Except Failure FileSystem :=
  match fs.locate cwd false p with
  | .error failure => .error failure
  | .ok loc =>
    match fs.lookup loc with
    | some .directory => .error .isDirectory
    | some _ => .ok (fs.erase loc)
    | none => .error .noEntry

/-- Makes an entry where there is none.  The path of a new directory may end in separators; any other node cannot be
made at such a path.  A link has to lead along a path as well, which is looked at first. -/
def make (fs : FileSystem) (cwd : Location) (p : Path) (node : Node) : Except Failure FileSystem :=
  match pathsFault? (node.paths ++ [p]), (Path.segments p.bytes).getLast? with
  | some failure, _ => .error failure
  | none, none => .error .exists
  | none, some last =>
    match follow fs true linkLimit (base cwd p) ((Path.segments p.bytes).dropLast ++ [Path.here]) with
    | .error failure => .error failure
    | .ok dir =>
      if last = Path.here ∨ last = Path.up then .error .exists
      else if nameLimit < last.length then .error .nameTooLong
      else match fs.lookup (dir ++ [last]) with
        | some _ => .error .exists
        | none => if p.endsOpen ∧ node ≠ .directory then .error .noEntry else .ok (fs.insert (dir ++ [last]) node)

def makeAlong (fs : FileSystem) (loc : Location) : List Bytes → Except Failure FileSystem
  | [] => .ok fs
  | c :: rest =>
    match follow fs true linkLimit loc [c] with
    | .error failure => .error failure
    | .ok next =>
      match fs.lookup next with
      | some .directory => makeAlong fs next rest
      | some _ => .error (if rest = [] then .exists else .notDirectory)
      | none => makeAlong (fs.insert next .directory) next rest

/-- Makes a directory and the directories above it, as far as they are missing. -/
def makeDirectories (fs : FileSystem) (cwd : Location) (p : Path) : Except Failure FileSystem :=
  match pathFault? p with
  | some failure => .error failure
  | none => fs.makeAlong (base cwd p) p.components

/-- Removes a directory and all that is below it; of a link only the link is removed. -/
def removeTree (fs : FileSystem) (cwd : Location) (p : Path) : Except Failure FileSystem :=
  match fs.locate cwd false p with
  | .error failure => .error failure
  | .ok loc =>
    match fs.lookup loc with
    | some .directory => .ok ⟨fs.nodes.filter fun entry => !loc.isPrefixOf entry.1⟩
    | some (.link _) => .ok (fs.erase loc)
    | some _ => .error .notDirectory
    | none => .error .noEntry

/-! ## Some faults -/

example : pathsFault? [⟨[]⟩, ⟨[97, 0]⟩] = some .nulInPath := by decide
example : pathsFault? [⟨[]⟩, ⟨[97]⟩] = some .noEntry := by decide
example : pathsFault? [⟨[97]⟩, ⟨[98]⟩] = none := by decide

end FileSystem
end FirmwareVars
