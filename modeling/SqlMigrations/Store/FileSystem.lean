import SqlMigrations.Text.Search

namespace SqlMigrations.Store

/-- An error of the file system. -/
inductive IoError where
  | notFound
  | permissionDenied
  | notDirectory
  | isDirectory
  | noDevice
  | tooManyLinks
  | nameTooLong
  | zeroByte
  deriving Repr, DecidableEq

def IoError.message : IoError → String
  | .notFound => "No such file or directory (os error 2)"
  | .noDevice => "No such device or address (os error 6)"
  | .permissionDenied => "Permission denied (os error 13)"
  | .notDirectory => "Not a directory (os error 20)"
  | .isDirectory => "Is a directory (os error 21)"
  | .nameTooLong => "File name too long (os error 36)"
  | .tooManyLinks => "Too many levels of symbolic links (os error 40)"
  | .zeroByte => "file name contained an unexpected NUL byte"

/-- The kind of a directory entry itself; a symbolic link is neither file nor directory. -/
inductive EntryKind where
  | file
  | directory
  | link
  | socket
  deriving Repr, DecidableEq

structure DirectoryEntry where
  name : String
  kind : EntryKind
  deriving Repr, DecidableEq

/-- The replies of a file system; paths are followed through symbolic links. -/
structure FileSystem where
  isDirectory : String → Except IoError Bool
  list : String → Except IoError (List DirectoryEntry)
  read : String → Except IoError (List UInt8)

def segments (path : String) : List String :=
  (Text.splitAll '/' path.toList).map String.ofList

def namedSegments (path : String) : List String :=
  (segments path).filter (fun segment => segment != "" && segment != ".")

/-- The last name of a path; a path that ends in its parent or names nothing has none. -/
def fileName? (path : String) : Option String :=
  match (namedSegments path).getLast? with
  | some name => if name = ".." then none else some name
  | none => none

def joinPath (directory name : String) : String :=
  match directory.toList.getLast? with
  | none => name
  | some '/' => directory ++ name
  | some _ => directory ++ "/" ++ name

/-- What follows the last dot of a name that does not only start with one. -/
def extension? (name : String) : Option String :=
  match Text.splitLast? '.' name.toList with
  | some (_ :: _, extension) => some (String.ofList extension)
  | _ => none

end SqlMigrations.Store
