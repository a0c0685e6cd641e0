import DependencyAudit.Failure
import DependencyAudit.Text.Decoding

/-!
Directory trees, and how a path is looked up in one.

A look-up starts at the root or at the current directory and takes one component after the
other. Every component needs a directory to look in, and that directory must be searchable. Two
dots lead to the directory that holds the present one, and the root holds itself. A component
takes at most 255 bytes, a whole path at most 4095.

What lies in a directory can only be listed if the directory is readable. A search below a
directory passes over what may not be listed, and goes on from a directory only if it is
searchable too.

The trees have no links. The way to the current directory is taken to be searchable, and a search
to end before the program runs out of stack, however deep the tree is.
-/

namespace DependencyAudit

/-- What may be done with a file or a directory: its bytes or its names may be read, its bytes or
its names may be changed, and names may be looked up in it. -/
structure Access where
  readable : Bool := true
  writable : Bool := true
  searchable : Bool := true
  deriving DecidableEq

/-- A file with its bytes, or a directory with what it holds. -/
inductive Node where
  | file (bytes : List UInt8) (access : Access := {})
  | directory (entries : List (String × Node)) (access : Access := {})

inductive Kind where
  | file
  | directory
  deriving DecidableEq

namespace Node

def kind : Node → Kind
  | file _ _ => .file
  | directory _ _ => .directory

mutual

/-- What a search below a node comes to, at any depth: the components on the way to it, and its
kind. A directory is listed if its access passes the first test, and what it holds is searched if
its access passes the second test too. -/
def search (lists enters : Access → Bool) : Node → List (List String × Kind)
  | file _ _ => []
  | directory entries access =>
    if lists access then entrySearch lists enters (enters access) entries else []

/-- The entries of a directory, and what a search below them comes to if it goes further. -/
def entrySearch (lists enters : Access → Bool) (further : Bool) :
    List (String × Node) → List (List String × Kind)
  | [] => []
  | (name, node) :: rest =>
    ([name], node.kind) ::
        (if further then (search lists enters node).map (fun e => (name :: e.1, e.2)) else [])
      ++ entrySearch lists enters further rest

end

/-- Everything below a node. -/
def descendants (n : Node) : List (List String × Kind) := n.search (fun _ => true) fun _ => true

/-- Everything below a node that a search with no more rights than the program has comes to. -/
def revealed (n : Node) : List (List String × Kind) := n.search Access.readable Access.searchable

mutual

/-- Every file below a node, with its bytes. -/
def files : Node → List (List String × List UInt8)
  | file _ _ => []
  | directory entries _ => entryFiles entries

def entryFiles : List (String × Node) → List (List String × List UInt8)
  | [] => []
  | (name, .file bytes _) :: rest => ([name], bytes) :: entryFiles rest
  | (name, .directory entries _) :: rest =>
    (entryFiles entries).map (fun f => (name :: f.1, f.2)) ++ entryFiles rest

end

/-- Puts an entry in the place of one of the same name, or behind the others. -/
def putEntry (name : String) (node : Node) : List (String × Node) → List (String × Node)
  | [] => [(name, node)]
  | (other, old) :: rest =>
    if other = name then (name, node) :: rest else (other, old) :: putEntry name node rest

/-- The node with something put at the end of the way; directories on the way are made. -/
def put (new : Node) : List String → Node → Node
  | [], _ => new
  | name :: way, file _ _ => directory [(name, put new way (directory []))]
  | name :: way, directory entries access =>
    let old := (entries.lookup name).getD (directory [])
    directory (putEntry name (put new way old) entries) access

end Node

/-- A directory tree, and the way from its root to the current directory. -/
structure Disk where
  root : Node := .directory []
  current : List String := []

namespace Disk

def maxNameSize : Nat := 255

def maxPathSize : Nat := 4095

def isTooLong (p : Path) : Bool := maxPathSize < p.text.utf8ByteSize

/-- Where one component leads from a node, and the nodes passed on the way down to there, the last
one first. -/
def step (passed : List Node) (here : Node) (part : String) : Except Obstacle (List Node × Node) :=
  match here with
  | .file _ _ => .error .notDirectory
  | .directory entries access =>
    if !access.searchable then .error .denied
    else if part = ".." then
      match passed with
      | [] => .ok ([], here)
      | above :: passed => .ok (passed, above)
    else if maxNameSize < part.utf8ByteSize then .error .nameTooLong
    else
      match entries.lookup part with
      | none => .error .missing
      | some next => .ok (here :: passed, next)

/-- Walks from a node along the components. -/
def walk (passed : List Node) (here : Node) : List String → Except Obstacle Node
  | [] => .ok here
  | part :: parts =>
    match step passed here part with
    | .error o => .error o
    | .ok (passed, next) => walk passed next parts

def find (d : Disk) (p : Path) : Except Obstacle Node :=
  if p.text.toList.contains '\x00' then .error .nullCharacter
  else if isTooLong p then .error .nameTooLong
  else walk [] d.root (if p.isAbsolute then p.parts else d.current ++ p.parts)

def kind (d : Disk) (p : Path) : Except Obstacle Kind := (d.find p).map Node.kind

def read (d : Disk) (p : Path) : Except Obstacle (List UInt8) :=
  match d.find p with
  | .error o => .error o
  | .ok (.directory _ access) => .error (if access.readable then .isDirectory else .denied)
  | .ok (.file bytes access) => if access.readable then .ok bytes else .error .denied

/-- What a search below the directory at a path comes to; nothing where there is none. -/
def below (d : Disk) (p : Path) : List (List String × Kind) :=
  match d.find p with
  | .error _ => []
  | .ok n => n.revealed

/-- The disk with a file written at a path. The directory that is to hold it must be there. -/
def write (d : Disk) (p : Path) (bytes : List UInt8) : Except Obstacle Disk :=
  match d.find p with
  | .ok (.directory _ _) => .error .isDirectory
  | .ok (.file _ access) => if access.writable then .ok (put access) else .error .denied
  | .error .missing =>
    match d.find p.parent with
    | .error o => .error o
    | .ok (.file _ _) => .error .notDirectory
    | .ok (.directory _ access) => if access.writable then .ok (put {}) else .error .denied
  | .error o => .error o
where
  /-- The disk with the file put at the place that the path leads to. -/
  put (access : Access) : Disk :=
    { d with root := Node.put (.file bytes access) (p.resolve ⟨.root, d.current⟩).parts d.root }

end Disk

end DependencyAudit
