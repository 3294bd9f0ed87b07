import SqlMigrations.Dsn.UrlAuthority
import SqlMigrations.Dsn.UrlParts
import SqlMigrations.Text.Quoted

/-!
PostgreSQL connection URLs. The parts before the parameters are percent-encoded; a parameter may
name the host, the port and the encryption, and one that is not known does not count. A host that
starts with a slash is the directory of a socket, which goes before every other host.
-/

namespace SqlMigrations.Dsn

/-- What a PostgreSQL URL says about the server. -/
structure PostgresUrl where
  host : String
  port : Nat
  directory : Option String
  deriving Repr, DecidableEq

/-- The server without anything said about it. -/
def PostgresUrl.default : PostgresUrl :=
  ⟨"localhost", 5432, none⟩

/-- The path of the socket that the server listens on, if it is one. -/
def PostgresUrl.socket? (url : PostgresUrl) : Option String :=
  url.directory.map (fun directory => directory ++ "/.s.PGSQL." ++ toString url.port)

/-- The URL with another host, which is the directory of a socket if it starts with a slash. -/
def PostgresUrl.withHost (url : PostgresUrl) (host : String) : PostgresUrl :=
  if host.toList.head? == some '/' then { url with directory := some host }
  else { url with host := host }

def encryptionModes : List String :=
  ["disable", "allow", "prefer", "require", "verify-ca", "verify-full"]

def unknownMode (value : String) : DriverFailure :=
  .configuration (DriverFailure.configuration
    ("unknown value " ++ Text.quoted value ++ " for `ssl_mode`")).message

def readCount (bound : Nat) (value : String) : Except DriverFailure Nat :=
  match Text.readUnsigned bound value.toList with
  | .ok number => .ok number
  | .error problem => .error (.configuration problem.message)

def PostgresUrl.applyParam (url : PostgresUrl) (param : String × String) :
    Except DriverFailure PostgresUrl :=
  match param with
  | ("sslmode", value) | ("ssl-mode", value) =>
    if encryptionModes.contains (String.ofList (value.toList.map Text.asciiLower)) then .ok url
    else .error (unknownMode value)
  | ("statement-cache-capacity", value) => (readCount (UInt64.size - 1) value).map (fun _ => url)
  | ("host", value) => .ok (url.withHost value)
  | ("hostaddr", value) =>
    if (IpAddress.read? value.toList).isSome then .ok { url with host := value }
    else .error (.configuration "invalid IP address syntax")
  | ("port", value) => (readCount 65535 value).map (fun port => { url with port := port })
  | _ => .ok url

def endsAuthority (c : Char) : Bool :=
  c == '/' || c == '?' || c == '#'

def dropTrailingControls (text : List Char) : List Char :=
  (text.reverse.dropWhile (fun c => decide (c ≤ ' '))).reverse

/-- What follows the two slashes of a URL, without the characters that URLs pass over. -/
def afterScheme (url : String) : List Char :=
  match Text.splitOnce? "://".toList (dropTrailingControls url.toList) with
  | some (_, rest) => rest.filter (fun c => c != '\t' && c != '\n' && c != '\r')
  | none => []

/-- What follows an authority, with the slash that opens a path. -/
def openPath (rest : List Char) : List Char :=
  if rest.head? == some '\\' then '/' :: rest else rest

def cutPath (rest : List Char) : List Char × List Char :=
  let cut := Text.FormUrl.cutQuery ((openPath rest).takeWhile (fun c => c != '#'))
  (normalPath cut.1, cut.2)

/-- Applies the host of a URL, of which only the directory of a socket is percent-encoded. -/
def PostgresUrl.withUrlHost (url : PostgresUrl) (host : List Char) :
    Except DriverFailure PostgresUrl :=
  if host.isEmpty then .ok url
  else if [['%', '2', 'F'], ['%', '2', 'f']].contains (host.take 3) then
    (readPercent host).map url.withHost
  else .ok { url with host := String.ofList host }

def PostgresUrl.read (text : String) : Except DriverFailure PostgresUrl := do
  let after := afterScheme text
  let rest := after.dropWhile (fun c => !endsAuthority c)
  match Authority.read (after.takeWhile (fun c => !endsAuthority c)) rest with
  | .error problem => .error (.configuration problem.message)
  | .ok authority =>
    let server := authority.server
    let url ← PostgresUrl.default.withUrlHost server.host
    let _ ← readPercent authority.user
    let _ ← readPercent (authority.password.getD [])
    let (path, params) := cutPath (server.rest ++ rest)
    let _ ← readPercent (path.dropWhile (· == '/'))
    (Text.FormUrl.decode params).foldlM PostgresUrl.applyParam
      { url with port := server.port.getD url.port }

end SqlMigrations.Dsn
