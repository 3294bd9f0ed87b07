import SqlMigrations.Store.FileSet
import SqlMigrations.Store.FileSystem
import SqlMigrations.Text.Utf8

namespace SqlMigrations

/-- The directory of the projects unless another one is given. -/
def defaultPath : String :=
  "schema"

/-- Options of a migration. A file name takes precedence over the path. -/
structure MigrateOptions where
  path : String
  project : String
  filename : Option String
  apply : Bool
  verbose : Bool
  deriving Repr, DecidableEq

/-- The options that apply when nothing is given. -/
def MigrateOptions.default : MigrateOptions :=
  ⟨defaultPath, "", none, false, false⟩

end SqlMigrations

namespace SqlMigrations.Store

abbrev Projects :=
  NameMap FileSet

def Projects.find (projects : Projects) (project : String) : Except MigrationError FileSet :=
  match projects.get? project with
  | some files => .ok files
  | none => .error (.unknownProject project)

/-- The last name of a path, which it must have. -/
def baseName (path : String) : Except MigrationError String :=
  match fileName? path with
  | some name => .ok name
  | none => .error (.config ("path has no file name: '" ++ path ++ "'"))

/-- The text of a file, which must be UTF-8. -/
def readSql (system : FileSystem) (path : String) : Except MigrationError String :=
  match system.read path with
  | .error problem => .error (.io problem)
  | .ok bytes =>
    match Text.Utf8.decode bytes with
    | .ok text => .ok (String.ofList text)
    | .error fault =>
      .error (.config ("migration file is not valid UTF-8: '" ++ path ++ "': " ++ fault.message))

/-- Whether a directory entry is a regular file with the extension of SQL files. -/
def isSqlFile (entry : DirectoryEntry) : Bool :=
  entry.kind == .file && extension? entry.name == some "sql"

/-- Reads the named files of a directory, in order. -/
def readNamed (system : FileSystem) (directory : String) :
    List String → Except MigrationError (List (String × String))
  | [] => .ok []
  | name :: names =>
    match readSql system (joinPath directory name) with
    | .error problem => .error problem
    | .ok contents => (readNamed system directory names).map ((name, contents) :: ·)

def readDirectory (system : FileSystem) (directory : String) : Except MigrationError FileSet :=
  match system.list directory with
  | .error problem => .error (.io problem)
  | .ok entries =>
    (readNamed system directory ((entries.filter isSqlFile).map DirectoryEntry.name)).map
      NameMap.ofList

/-- The outcome of a load: the projects afterwards and, if it failed, why. -/
structure Loaded where
  projects : Projects
  result : Except MigrationError Unit

/-- Loads subdirectories of the root as projects, in order. -/
def loadSubdirectories (system : FileSystem) (root : String) :
    Projects → List String → Loaded
  | projects, [] => ⟨projects, .ok ()⟩
  | projects, name :: names =>
    match readDirectory system (joinPath root name) with
    | .error problem => ⟨projects, .error problem⟩
    | .ok files => loadSubdirectories system root (projects.insert name files) names

/-- Loads the files directly in the root, if there are any, as a project named after it. -/
def loadTopLevel (system : FileSystem) (root : String) (projects : Projects) : Loaded :=
  match readDirectory system root with
  | .error problem => ⟨projects, .error problem⟩
  | .ok files =>
    if files.isEmpty then ⟨projects, .ok ()⟩
    else
      match baseName root with
      | .error problem => ⟨projects, .error problem⟩
      | .ok name => ⟨projects.insert name files, .ok ()⟩

/-- The names of the subdirectories among entries, in ascending order. -/
def subdirectories (entries : List DirectoryEntry) : List String :=
  ((entries.filter (fun entry => entry.kind == .directory)).map
    DirectoryEntry.name).mergeSort (fun left right => decide (left ≤ right))

def loadDirectory (system : FileSystem) (projects : Projects) (root : String) : Loaded :=
  match system.isDirectory root with
  | .error problem => ⟨projects, .error (.config ("path: '" ++ root ++ "': " ++ problem.message))⟩
  | .ok false => ⟨projects, .error (.config ("path is not a directory: '" ++ root ++ "'"))⟩
  | .ok true =>
    match system.list root with
    | .error problem => ⟨projects, .error (.io problem)⟩
    | .ok entries =>
      let below := loadSubdirectories system root projects (subdirectories entries)
      match below.result with
      | .error problem => ⟨below.projects, .error problem⟩
      | .ok () => loadTopLevel system root below.projects

def loadFile (system : FileSystem) (projects : Projects) (project path : String) : Loaded :=
  match baseName path with
  | .error problem => ⟨projects, .error problem⟩
  | .ok name =>
    match readSql system path with
    | .error problem => ⟨projects, .error problem⟩
    | .ok contents => ⟨projects.insert project (NameMap.empty.insert name contents), .ok ()⟩

/-- Loads what the options ask for: a single file, or the projects below the path. -/
def load (system : FileSystem) (projects : Projects) (options : MigrateOptions) : Loaded :=
  match options.filename with
  | none => loadDirectory system projects options.path
  | some filename =>
    if options.project = "" then
      ⟨projects, .error (.config "a project name is required when loading a single file")⟩
    else loadFile system projects options.project filename

end SqlMigrations.Store
