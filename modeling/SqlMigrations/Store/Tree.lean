import SqlMigrations.Store.FileSystem

/-!
A file system that is a tree of directories, files, symbolic links and sockets. Paths are walked
segment by segment; a link is replaced by its target, relative to the directory that holds it, at
most forty times. Names and paths have greatest lengths in bytes.
-/

namespace SqlMigrations.Store

inductive Node where
  | file (contents : List UInt8)
  | directory (entries : List (String × Node))
  | link (target : String)
  | socket

def Node.kind : Node → EntryKind
  | .file _ => .file
  | .directory _ => .directory
  | .link _ => .link
  | .socket => .socket

def Node.entry? (node : Node) (name : String) : Option Node :=
  match node with
  | .directory entries => (entries.find? (fun entry => entry.1 == name)).map Prod.snd
  | .file _ | .link _ | .socket => none

/-- The node at the end of a list of names, without following links. -/
def Node.at? (node : Node) (names : List String) : Option Node :=
  names.foldl (fun found name => found.bind (fun directory => directory.entry? name)) (some node)

def Node.hasDirectory (node : Node) (names : List String) : Bool :=
  match node.at? names with
  | some (.directory _) => true
  | _ => false

/-- The entries of a directory with the one of a name replaced or added. -/
def putNode (name : String) (node : Node) : List (String × Node) → List (String × Node)
  | [] => [(name, node)]
  | entry :: rest => if entry.1 = name then (name, node) :: rest
    else entry :: putNode name node rest

/-- The node with another one put at the end of a list of names; directories on the way that are
missing are created. -/
def Node.put (added : Node) : List String → Node → Node
  | [], _ => added
  | name :: rest, node =>
    match node with
    | .directory entries =>
      .directory (putNode name (added.put rest ((node.entry? name).getD (.directory []))) entries)
    | .file _ | .link _ | .socket => .directory [(name, added.put rest (.directory []))]

/-- A tree with the directory from which relative paths start. -/
structure Tree where
  root : Node
  current : List String

/-- Whether a path starts at the root. -/
def isAbsolute (path : String) : Bool :=
  path.toList.head? == some '/'

def Tree.start (tree : Tree) (path : String) : List String :=
  if isAbsolute path then [] else tree.current

/-- The greatest length of a name, in bytes. -/
def maxNameLength : Nat :=
  255

/-- The greatest length of a path, in bytes. -/
def maxPathLength : Nat :=
  4095

def isTooLong (name : String) : Bool :=
  decide (maxNameLength < name.utf8ByteSize)

/-- Walks segments from a directory, following at most `links` links; returns the names that lead
from the root to the end of the walk. -/
def Tree.walk (tree : Tree) (links : Nat) (here : List String) (path : List String) :
    Except IoError (List String) :=
  match path with
  | [] => .ok here
  | segment :: rest =>
    if tree.root.hasDirectory here then
      if segment = "" ∨ segment = "." then tree.walk links here rest
      else if segment = ".." then tree.walk links here.dropLast rest
      else if isTooLong segment then .error .nameTooLong
      else
        match tree.root.at? (here ++ [segment]) with
        | none => .error .notFound
        | some (.link target) =>
          match links with
          | 0 => .error .tooManyLinks
          | more + 1 =>
            tree.walk more (if isAbsolute target then [] else here) (segments target ++ rest)
        | some _ => tree.walk links (here ++ [segment]) rest
    else .error .notDirectory
  termination_by (links, path.length)

def Tree.resolve (tree : Tree) (path : String) : Except IoError (List String) :=
  if path.toList.contains '\x00' then .error .zeroByte
  else if path = "" then .error .notFound
  else if maxPathLength < path.utf8ByteSize then .error .nameTooLong
  else tree.walk 40 (tree.start path) (segments path)

def Tree.find (tree : Tree) (path : String) : Except IoError Node :=
  match tree.resolve path with
  | .error problem => .error problem
  | .ok names =>
    match tree.root.at? names with
    | some node => .ok node
    | none => .error .notFound

def Node.listing : Node → Except IoError (List DirectoryEntry)
  | .directory entries => .ok (entries.map (fun entry => ⟨entry.1, entry.2.kind⟩))
  | .file _ | .link _ | .socket => .error .notDirectory

def Node.contents : Node → Except IoError (List UInt8)
  | .file contents => .ok contents
  | .directory _ => .error .isDirectory
  | .link _ => .error .notFound
  | .socket => .error .noDevice

def Tree.fileSystem (tree : Tree) : FileSystem where
  isDirectory path := (tree.find path).map (fun node => node.kind == .directory)
  list path := (tree.find path).bind Node.listing
  read path := (tree.find path).bind Node.contents

/-- Walks segments as if everything on the way were there: a name that is not there leads on, and a
step to the parent takes the last name back. Links are followed. -/
def Tree.walkFreely (tree : Tree) (links : Nat) (here : List String) (path : List String) :
    Option (List String) :=
  match path with
  | [] => some here
  | segment :: rest =>
    if segment = "" ∨ segment = "." then tree.walkFreely links here rest
    else if segment = ".." then tree.walkFreely links here.dropLast rest
    else
      match tree.root.at? (here ++ [segment]) with
      | some (.link target) =>
        match links with
        | 0 => none
        | more + 1 =>
          tree.walkFreely more (if isAbsolute target then [] else here) (segments target ++ rest)
      | _ => tree.walkFreely links (here ++ [segment]) rest
  termination_by (links, path.length)

/-- The tree with a node added at a path; directories on the way that are missing are created. A
link stands where the path says, and everything else where links at the path lead. -/
def Tree.add (tree : Tree) (path : String) (node : Node) : Tree :=
  let parts := namedSegments path
  let names :=
    match node with
    | .link _ =>
      (tree.walkFreely 40 (tree.start path) parts.dropLast).map (· ++ parts.getLast?.toList)
    | _ => tree.walkFreely 40 (tree.start path) parts
  match names with
  | some found =>
    if node.kind == .directory && tree.root.hasDirectory found then tree
    else { tree with root := node.put found tree.root }
  | none => tree

end SqlMigrations.Store
