import SqlMigrations.Store.Tree

/-!
Database files in a tree. The library walks a path to a database on its own: a step to the parent
takes the last name back, whether or not there is anything by that name, and only a file on the way
is an obstacle. The path that it arrives at has a greatest length.
-/

namespace SqlMigrations.Store

/-- The number of links that are followed to a database file. -/
def databaseLinks : Nat :=
  201

/-- The greatest length of the path of a database file, in bytes; there is room behind it for the
names of its companions. -/
def maxDatabasePath : Nat :=
  504

/-- The greatest length that a path may have while it is walked. -/
def maxWalkedPath : Nat :=
  511

def pathLength (names : List String) : Nat :=
  names.foldl (fun total name => total + 1 + name.utf8ByteSize) 0

def Tree.canLookUp (tree : Tree) (here : List String) (name : String) : Bool :=
  decide (pathLength (here ++ [name]) ≤ maxWalkedPath) && !isTooLong name &&
    match tree.root.at? here with
    | some (.file _) | some .socket => false
    | _ => true

def Tree.walkDatabase (tree : Tree) (links : Nat) (here : List String) (path : List String) :
    Option (List String) :=
  match path with
  | [] => some here
  | segment :: rest =>
    if segment = "" ∨ segment = "." then tree.walkDatabase links here rest
    else if segment = ".." then tree.walkDatabase links here.dropLast rest
    else if tree.canLookUp here segment then
      match tree.root.at? (here ++ [segment]) with
      | some (.link target) =>
        match links with
        | 0 => none
        | more + 1 =>
          tree.walkDatabase more (if isAbsolute target then [] else here)
            (segments target ++ rest)
      | _ => tree.walkDatabase links (here ++ [segment]) rest
    else none
  termination_by (links, path.length)

def Tree.databaseNames? (tree : Tree) (path : String) : Option (List String) :=
  match tree.walkDatabase databaseLinks (tree.start path) (segments path) with
  | some names =>
    if names.isEmpty || decide (maxDatabasePath < pathLength names) then none else some names
  | none => none

/-- Why a database file cannot be opened. -/
inductive OpenProblem where
  | cannotOpen
  | noModel
  | unreadable
  deriving Repr, DecidableEq

/-- Opens the database file at the end of names, with leave to write to it or to create it. -/
def Tree.openAt (tree : Tree) (write create : Bool) (names : List String) :
    Except OpenProblem Unit :=
  match tree.root.at? names with
  | some (.file _) => .ok ()
  | some (.directory _) => .error (if write then .cannotOpen else .unreadable)
  | some (.link _) | some .socket => .error .cannotOpen
  | none => if create && tree.root.hasDirectory names.dropLast then .ok () else .error .cannotOpen

/-- Opens the database file of a path; its rights are those of a model file, if one is named. -/
def Tree.openDatabase (tree : Tree) (write create : Bool) (model : Option String) (path : String) :
    Except OpenProblem Unit :=
  match tree.databaseNames? path with
  | none => .error .cannotOpen
  | some names =>
    if model.any (fun file => !(tree.find file).isOk) then .error .noModel
    else tree.openAt write create names

/-- The tree with an empty file for the database of a path, if there is none and there can be. -/
def Tree.createDatabase (tree : Tree) (path : String) : Tree :=
  match tree.databaseNames? path with
  | some names =>
    if (tree.root.at? names).isNone && tree.root.hasDirectory names.dropLast then
      { tree with root := (Node.file []).put names tree.root }
    else tree
  | none => tree

end SqlMigrations.Store
