import SqlMigrations.Dsn.UrlParts
import SqlMigrations.Text.FormUrl
import SqlMigrations.Text.Quoted

/-!
Where a SQLite database lives. A cleaned connection string names a private database in memory, a
file, or a URL, of which the path is percent-encoded and the parameters must be known to the driver.
-/

namespace SqlMigrations.Dsn

/-- The place of a SQLite database. -/
inductive SqliteTarget where
  | memory
  | file (path : String)
  | url (url : String)
  deriving Repr, DecidableEq

/-- Whether the database disappears with its last connection. -/
def SqliteTarget.isMemory : SqliteTarget → Bool
  | .memory => true
  | .file _ | .url _ => false

/-- The text without a leading `file://` or `file:`. -/
def dropFileScheme (dsn : List Char) : List Char :=
  match Text.stripStart? "file://".toList dsn with
  | some path => path
  | none => (Text.stripStart? "file:".toList dsn).getD dsn

def asksForMemory (query : List Char) : Bool :=
  (Text.FormUrl.decode query).any (fun pair => pair.1 == "mode" && pair.2 == "memory")

def SqliteTarget.ofPath (dsn : List Char) : SqliteTarget :=
  let parts := Text.FormUrl.cutQuery (dropFileScheme dsn)
  if parts.1 = ":memory:".toList ∨ parts.1 = [] ∨ asksForMemory parts.2 = true then .memory
  else .file (String.ofList parts.1)

def SqliteTarget.read (dsn : String) : SqliteTarget :=
  match Text.stripStart? "sqlite:".toList dsn.toList with
  | some _ => if dsn = "sqlite::memory:" then .memory else .url dsn
  | none => SqliteTarget.ofPath dsn.toList

structure SqliteOpening where
  name : String
  inMemory : Bool
  readOnly : Bool
  create : Bool
  immutable : Bool
  vfs : Option String
  deriving Repr, DecidableEq

/-- The opening of a name that must exist, with nothing else asked for. -/
def SqliteOpening.ofName (name : String) : SqliteOpening :=
  ⟨name, false, false, false, false, none⟩

def SqliteOpening.memory : SqliteOpening :=
  { SqliteOpening.ofName "" with inMemory := true }

/-- The report of a parameter whose value is not known. -/
def unknownValue (key value : String) : DriverFailure :=
  .configuration ("unknown value " ++ Text.quoted value ++ " for `" ++ key ++ "`")

def SqliteOpening.applyParam (opening : SqliteOpening) (param : String × String) :
    Except DriverFailure SqliteOpening :=
  match param with
  | ("mode", "ro") => .ok { opening with readOnly := true }
  | ("mode", "rw") => .ok opening
  | ("mode", "rwc") => .ok { opening with create := true }
  | ("mode", "memory") => .ok { opening with inMemory := true }
  | ("cache", "private") | ("cache", "shared") => .ok opening
  | ("immutable", "true") | ("immutable", "1") => .ok { opening with immutable := true }
  | ("immutable", "false") | ("immutable", "0") => .ok { opening with immutable := false }
  | ("vfs", name) => .ok { opening with vfs := some name }
  | (key, value) =>
    if ["mode", "cache", "immutable"].contains key then .error (unknownValue key value)
    else
      .error (.configuration
        ("unknown query parameter `" ++ key ++ "` while parsing connection URL"))

/-- The text without any number of leading `front`, of which each is not empty. -/
def dropAll (front : List Char) (fuel : Nat) (text : List Char) : List Char :=
  match fuel, Text.stripStart? front text with
  | more + 1, some rest => dropAll front more rest
  | _, _ => text

/-- A URL without its scheme, however often that is written. -/
def dropUrlSchemes (url : List Char) : List Char :=
  dropAll "sqlite:".toList url.length (dropAll "sqlite://".toList url.length url)

/-- The opening that the path of a URL asks for, before its parameters. -/
def SqliteOpening.ofUrlPath (path : List Char) : Except DriverFailure SqliteOpening :=
  if path = ":memory:".toList then .ok .memory
  else (readPercent path).map SqliteOpening.ofName

def SqliteOpening.ofUrl (url : String) : Except DriverFailure SqliteOpening :=
  let parts := Text.FormUrl.cutQuery (dropUrlSchemes url.toList)
  match SqliteOpening.ofUrlPath parts.1 with
  | .error failure => .error failure
  | .ok opening => (Text.FormUrl.decode parts.2).foldlM SqliteOpening.applyParam opening

/-- The opening that a target asks for; a file is created if it does not exist. -/
def SqliteTarget.opening : SqliteTarget → Except DriverFailure SqliteOpening
  | .memory => .ok .memory
  | .file path => .ok { SqliteOpening.ofName path with create := true }
  | .url text => SqliteOpening.ofUrl text

def SqliteOpening.nameParams (opening : SqliteOpening) : List (String × String) :=
  (if opening.immutable then [("immutable", "true")] else []) ++
    opening.vfs.toList.map (fun vfs => ("vfs", vfs))

def SqliteOpening.givenName (opening : SqliteOpening) : List Char :=
  if opening.nameParams.isEmpty then opening.name.toList
  else
    "file:".toList ++ Text.FormUrl.escape opening.name.toList ++ '?' ::
      Text.FormUrl.encode opening.nameParams

end SqlMigrations.Dsn
