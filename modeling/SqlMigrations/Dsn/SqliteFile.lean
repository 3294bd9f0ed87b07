import SqlMigrations.Dsn.SqliteUrl

/-!
Names of databases as the SQLite library reads them. A name that starts with `file:` is a URI with a
path and parameters, which are percent-encoded on their own terms: a fragment does not count, an
escaped zero byte ends the part that it stands in, and a parameter without a key is passed over.
-/

namespace SqlMigrations.Dsn

/-- What may be done with a database. -/
structure SqliteAccess where
  read : Bool
  write : Bool
  create : Bool
  memory : Bool
  deriving Repr, DecidableEq

/-- The order of accesses: a parameter may not ask for one above the access it was given. -/
def SqliteAccess.rank (access : SqliteAccess) : Nat :=
  access.read.toNat + 2 * access.write.toNat + 4 * access.create.toNat + 128 * access.memory.toNat

def SqliteAccess.ofName? : String → Option SqliteAccess
  | "ro" => some ⟨true, false, false, false⟩
  | "rw" => some ⟨false, true, false, false⟩
  | "rwc" => some ⟨false, true, true, false⟩
  | "memory" => some ⟨false, false, false, true⟩
  | _ => none

/-- A database as the library opens it. -/
structure SqliteFile where
  name : String
  access : SqliteAccess
  vfs : String
  params : List (String × String)
  deriving Repr, DecidableEq

def sqliteRefusal (code : Nat) (message : String) : DriverFailure :=
  .refused (.sqlite (toString code)) message

/-- The part of encoded bytes before a zero byte, decoded. -/
def decodeUntilZero : List UInt8 → List UInt8
  | [] => []
  | byte :: rest =>
    if byte = 0x25 then
      match rest with
      | high :: low :: more =>
        match Text.FormUrl.hexValue? high, Text.FormUrl.hexValue? low with
        | some h, some l =>
          if 16 * h + l = 0 then [] else (16 * h + l) :: decodeUntilZero more
        | _, _ => byte :: decodeUntilZero (high :: low :: more)
      | short => byte :: decodeUntilZero short
    else byte :: decodeUntilZero rest
  termination_by bytes => bytes.length

def readUriPart (part : List Char) : String :=
  String.ofList (Text.Utf8.decodeLenient (decodeUntilZero (Text.Utf8.encode part)))

def readUriParam (segment : List Char) : String × String :=
  match Text.splitFirst? '=' segment with
  | some (key, value) => (readUriPart key, readUriPart value)
  | none => (readUriPart segment, "")

def readUriParams (text : List Char) : List (String × String) :=
  ((Text.splitAll '&' text).map readUriParam).filter (fun param => param.1 != "")

/-- The path and the parameters of a URI behind its scheme and its authority, which may only be this
host. -/
def dropUriAuthority (uri : List Char) : Except DriverFailure (List Char) :=
  match Text.stripStart? ['/', '/'] uri with
  | none => .ok uri
  | some rest =>
    let authority := rest.takeWhile (fun c => c != '/')
    if authority.isEmpty ∨ authority = "localhost".toList then
      .ok (rest.dropWhile (fun c => c != '/'))
    else .error (sqliteRefusal 1 ("invalid uri authority: " ++ String.ofList authority))

/-- Applies one parameter of a URI; the ones that are not known are only kept. -/
def SqliteFile.applyParam (file : SqliteFile) (param : String × String) :
    Except DriverFailure SqliteFile :=
  match param with
  | ("vfs", name) => .ok { file with vfs := name }
  | ("cache", kind) =>
    if kind = "shared" ∨ kind = "private" then .ok file
    else .error (sqliteRefusal 1 ("no such cache mode: " ++ kind))
  | ("mode", kind) =>
    match SqliteAccess.ofName? kind with
    | none => .error (sqliteRefusal 1 ("no such access mode: " ++ kind))
    | some access =>
      if SqliteAccess.rank { access with memory := false } ≤ file.access.rank then
        .ok { file with access := access }
      else .error (sqliteRefusal 3 ("access mode not allowed: " ++ kind))
  | _ => .ok file

def knownVfs : List String :=
  ["unix", "unix-none", "unix-dotfile", "unix-excl", "memdb"]

def SqliteFile.checkVfs (file : SqliteFile) : Except DriverFailure SqliteFile :=
  if knownVfs.contains file.vfs then .ok file
  else .error (sqliteRefusal 1 ("no such vfs: " ++ file.vfs))

def SqliteFile.readUri (access : SqliteAccess) (uri : List Char) :
    Except DriverFailure SqliteFile := do
  let rest ← dropUriAuthority uri
  let parts := Text.FormUrl.cutQuery (rest.takeWhile (fun c => c != '#'))
  let params := readUriParams parts.2
  params.foldlM SqliteFile.applyParam ⟨readUriPart parts.1, access, "unix", params⟩

def SqliteFile.read (access : SqliteAccess) (name : List Char) : Except DriverFailure SqliteFile :=
  match Text.stripStart? "file:".toList name with
  | some uri => (SqliteFile.readUri access uri).bind SqliteFile.checkVfs
  | none => .ok ⟨String.ofList name, access, "unix", []⟩

def SqliteOpening.access (opening : SqliteOpening) : SqliteAccess :=
  ⟨opening.readOnly, !opening.readOnly, !opening.readOnly && opening.create, opening.inMemory⟩

/-- The database that an opening leads to. -/
def SqliteOpening.file (opening : SqliteOpening) : Except DriverFailure SqliteFile :=
  if opening.givenName.contains '\x00' then
    .error (.network "filename passed to SQLite must not contain nul bytes")
  else SqliteFile.read opening.access opening.givenName

/-- Whether the database lives in memory, as a name and an access say. -/
def SqliteFile.inMemory (file : SqliteFile) : Bool :=
  file.access.memory || file.name == ":memory:"

def SqliteFile.param? (file : SqliteFile) (key : String) : Option String :=
  (file.params.find? (fun param => param.1 == key)).map Prod.snd

/-- Whether the database is kept in a file of this host; one without a name is private to its
connection. -/
def SqliteFile.isOnDisk (file : SqliteFile) : Bool :=
  !file.inMemory && file.name != "" && file.vfs != "memdb"

end SqlMigrations.Dsn
