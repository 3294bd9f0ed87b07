import SqlMigrations.Connection.Network
import SqlMigrations.Connection.Retry
import SqlMigrations.Dsn.Clean
import SqlMigrations.Dsn.MySqlLogin
import SqlMigrations.Dsn.PostgresUrl
import SqlMigrations.Dsn.SqliteFile
import SqlMigrations.Store.DatabaseFile
import SqlMigrations.Text.Blank

/-!
What attempts to connect meet: the files of this host and a server that may listen on a socket.
There is no network, so that nothing beyond this host can be reached. A driver whose connection is
refused waits for the server to come up until it runs out of patience.
-/

namespace SqlMigrations

/-- What is connected to. -/
inductive Target where
  | postgres (url : Dsn.PostgresUrl)
  | mysql (dsn : Dsn.MySqlDsn)
  | sqlite (file : Dsn.SqliteFile)
  deriving Repr, DecidableEq

def Target.dialect : Target → Dialect
  | .postgres _ => .postgres
  | .mysql _ => .mysql
  | .sqlite _ => .sqlite

def Target.ofCleaned (dialect : Dialect) (dsn : String) : Except ConnectionError Target :=
  match dialect with
  | .postgres => ((Dsn.PostgresUrl.read dsn).map Target.postgres).mapError .driver
  | .mysql => (Dsn.MySqlDsn.read dsn).bind (fun parsed =>
      (parsed.checkCollation.map (fun _ => Target.mysql parsed)).mapError .driver)
  | .sqlite =>
    (((Dsn.SqliteTarget.read dsn).opening.bind Dsn.SqliteOpening.file).map
      Target.sqlite).mapError .driver

def Target.ofDsn (dsn : String) : Except ConnectionError Target :=
  let trimmed := Text.trimmed dsn
  if trimmed.isEmpty then .error .emptyDsn
  else Target.ofCleaned (Dialect.ofDsn trimmed) (Dsn.cleanFor (Dialect.ofDsn trimmed) trimmed)

/-- A server on a socket, which refuses the logins of its first connections. -/
structure Listener where
  path : String
  refusals : Nat
  deriving Repr, DecidableEq

/-- The files and the server that attempts meet. -/
structure Surroundings where
  tree : Store.Tree
  listener : Option Listener

/-- Files with a server, whose socket is one of them. -/
def Surroundings.of (tree : Store.Tree) (listener : Option Listener) : Surroundings :=
  match listener with
  | some server => ⟨tree.add server.path .socket, listener⟩
  | none => ⟨tree, none⟩

def refusedLogin : DriverFailure :=
  .refused (.mysql 1064 "28000") "refused"

/-- How long a driver waits for a server that refuses connections. -/
def patience : Duration :=
  .ofSeconds 30

/-- The size of a socket address, in bytes; a path needs one byte more than it has. -/
def socketAddressSize : Nat :=
  108

inductive SocketEnd where
  | server
  | nobody
  | failure (problem : String)
  deriving Repr, DecidableEq

/-- What is at the other end of a socket without a file, whose name starts with a zero byte. -/
def abstractSocket (path : String) : SocketEnd :=
  if socketAddressSize < path.utf8ByteSize then
    .failure "abstract socket name must be shorter than SUN_LEN"
  else .nobody

def Surroundings.socket (around : Surroundings) (path : String) : SocketEnd :=
  if path.toList.head? == some '\x00' then abstractSocket path
  else if path.toList.contains '\x00' then
    .failure "paths must not contain interior null bytes"
  else if socketAddressSize ≤ path.utf8ByteSize then
    .failure "path must be shorter than SUN_LEN"
  else if path.isEmpty then .failure Network.Obstacle.invalidArgument.message
  else
    match around.tree.find path with
    | .error problem => .failure problem.message
    | .ok .socket => .server
    | .ok _ => .nobody

def openFailure : Store.OpenProblem → DriverFailure
  | .cannotOpen => Dsn.sqliteRefusal 14 "unable to open database file"
  | .noModel => Dsn.sqliteRefusal 1802 "disk I/O error"
  | .unreadable => Dsn.sqliteRefusal 266 "disk I/O error"

def Surroundings.openSqlite (around : Surroundings) (file : Dsn.SqliteFile) :
    Except DriverFailure Unit :=
  if file.isOnDisk then
    (around.tree.openDatabase file.access.write file.access.create (file.param? "modeof")
      file.name).mapError openFailure
  else if file.inMemory || decide (file.name.utf8ByteSize ≤ 1016) then .ok ()
  else .error (openFailure .cannotOpen)

/-- What an attempt to log in over a socket ends with; `before` attempts went before it. -/
def Surroundings.logIn (around : Surroundings) (before : Nat) (path : String) :
    Except DriverFailure Unit :=
  match around.socket path with
  | .failure problem => .error (.network problem)
  | .nobody => .error .poolTimedOut
  | .server =>
    if (around.listener.map Listener.refusals).any (fun refusals => decide (before < refusals)) then
      .error refusedLogin
    else .ok ()

/-- The path of the socket that a target is reached over, if it is. -/
def Target.socket? : Target → Option String
  | .postgres url => url.socket?
  | .mysql dsn =>
    match dsn.address with
    | .unix path => some path
    | .tcp _ _ => none
  | .sqlite _ => none

/-- What an attempt to connect to a target ends with; `before` attempts went before it. -/
def Surroundings.attempt (around : Surroundings) (before : Nat) (target : Target) :
    Except DriverFailure Unit :=
  match target with
  | .sqlite file => around.openSqlite file
  | .postgres url =>
    match url.socket? with
    | some path => around.logIn before path
    | none => .error (Network.failure url.host)
  | .mysql dsn =>
    match dsn.address with
    | .unix path => around.logIn before path
    | .tcp host _ => .error (Network.failure host)

def Surroundings.outcomes (around : Surroundings) (dsn : String) (attempts : Nat) :
    List (Except ConnectionError Target) :=
  match Target.ofDsn dsn with
  | .error problem => List.replicate attempts (.error problem)
  | .ok target =>
    (List.range attempts).map (fun before =>
      ((around.attempt before target).map (fun _ => target)).mapError ConnectionError.driver)

def Surroundings.socketOf (around : Surroundings) (dsn : String) : Option SocketEnd :=
  ((Target.ofDsn dsn).toOption.bind Target.socket?).map around.socket

/-- How long every attempt to connect by a connection string takes. -/
def Surroundings.span (around : Surroundings) (dsn : String) : Duration :=
  if around.socketOf dsn = some .nobody then patience else .ofSeconds 0

/-- The number of attempts that are followed; a course that goes on longer is cut off before. -/
def attemptLimit : Nat :=
  10000

def Surroundings.connectOnce (around : Surroundings) (dsn : String) : Course Target :=
  ⟨(around.outcomes dsn 1).head?, 1, []⟩

def Surroundings.connect (around : Surroundings) (options : ConnectOptions)
    (cancelAfter : Option Duration) : Course Target :=
  connectWithRetry options cancelAfter (around.span options.dsn)
    (around.outcomes options.dsn attemptLimit)

def Surroundings.connections {α : Type} (around : Surroundings) (dsn : String)
    (course : Course α) : Nat :=
  if around.socketOf dsn = some .server then course.attempts else 0

/-- The file that a target keeps its database in, if it is kept in one. -/
def Target.file? : Target → Option String
  | .sqlite file => if file.isOnDisk then some file.name else none
  | .postgres _ | .mysql _ => none

end SqlMigrations
