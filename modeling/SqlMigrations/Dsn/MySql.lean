import SqlMigrations.Dsn.Mask
import SqlMigrations.Text.FormUrl
import SqlMigrations.Text.Number

/-!
MySQL connection strings of the form `[user[:password]@]net(address)/[database][?key=value&...]`,
with a reader and a writer. The last slash before the question mark opens the database name and
the last at sign before it opens the address, so a password may hold either.
-/

namespace SqlMigrations.Dsn

inductive MySqlAddress where
  | tcp (host : String) (port : Option Nat)
  | unix (path : String)
  deriving Repr, DecidableEq

structure MySqlDsn where
  user : Option String
  password : Option String
  address : MySqlAddress
  database : Option String
  params : List (String × String)
  deriving Repr, DecidableEq

/-- A text, or none for the empty one. -/
def nonempty? (text : List Char) : Option String :=
  if text.isEmpty then none else some (String.ofList text)

def maxPort : Nat :=
  65535

/-- Reads the address of a TCP server; without one the server is on this host. -/
def MySqlAddress.readTcp (address : List Char) : Except ConnectionError MySqlAddress :=
  if address.isEmpty then .ok (.tcp "localhost" none)
  else
    match Text.splitLast? ':' address with
    | some (host, port) =>
      match Text.readUnsigned maxPort port with
      | .ok number => .ok (.tcp (String.ofList host) (some number))
      | .error problem =>
        .error (.config ("invalid MySQL port '" ++ String.ofList port ++ "': " ++ problem.message))
    | none => .ok (.tcp (String.ofList address) none)

def MySqlAddress.readOn (network address : List Char) : Except ConnectionError MySqlAddress :=
  if network = "unix".toList then .ok (.unix (String.ofList address))
  else if network = "tcp".toList ∨ network = [] then MySqlAddress.readTcp address
  else .error (.config ("unsupported MySQL network: " ++ String.ofList network))

/-- Reads `net(address)`, or a bare address on the TCP network. -/
def MySqlAddress.read (text : List Char) : Except ConnectionError MySqlAddress :=
  match Text.splitFirst? '(' text with
  | some (network, rest) =>
    match Text.stripEnd? [')'] rest with
    | some address => MySqlAddress.readOn network address
    | none => .error (.config ("invalid MySQL address, unclosed '(': " ++ String.ofList text))
  | none => MySqlAddress.readOn "tcp".toList text

/-- The user and the password of the text before the address; an empty user counts as none. -/
def readCredentials (credentials : List Char) : Option String × Option String :=
  match Text.splitFirst? ':' credentials with
  | some (user, password) => (nonempty? user, some (String.ofList password))
  | none => (nonempty? credentials, none)

/-- The credentials, if any, and the address of the text before the database name. -/
def cutServer (server : List Char) : (Option String × Option String) × List Char :=
  match Text.splitLast? '@' server with
  | some (credentials, address) => (readCredentials credentials, address)
  | none => ((none, none), server)

def MySqlDsn.read (dsn : String) : Except ConnectionError MySqlDsn :=
  let parts := Text.FormUrl.cutQuery dsn.toList
  match Text.splitLast? '/' parts.1 with
  | none =>
    .error (.config ("invalid MySQL DSN, missing '/' before the database name: " ++
      mask .mysql dsn))
  | some (server, database) =>
    let cut := cutServer server
    match MySqlAddress.read cut.2 with
    | .error problem => .error problem
    | .ok address =>
      .ok ⟨cut.1.1, cut.1.2, address, nonempty? database, Text.FormUrl.decode parts.2⟩

def MySqlDsn.param? (dsn : MySqlDsn) (key : String) : Option String :=
  (dsn.params.find? (fun param => param.1 == key)).map Prod.snd

def MySqlAddress.write : MySqlAddress → List Char
  | .tcp host none => "tcp(".toList ++ host.toList ++ [')']
  | .tcp host (some port) => "tcp(".toList ++ host.toList ++ ':' :: Nat.toDigits 10 port ++ [')']
  | .unix path => "unix(".toList ++ path.toList ++ [')']

/-- The credentials in written form, with the at sign that ends them. -/
def writeCredentials : Option String → Option String → List Char
  | none, _ => []
  | some user, none => user.toList ++ ['@']
  | some user, some password => user.toList ++ ':' :: password.toList ++ ['@']

/-- The parameters in written form, with the question mark that opens them. -/
def writeParams (params : List (String × String)) : List Char :=
  if params.isEmpty then [] else '?' :: Text.FormUrl.encode params

def MySqlDsn.write (dsn : MySqlDsn) : String :=
  String.ofList (writeCredentials dsn.user dsn.password ++ dsn.address.write ++
    '/' :: (dsn.database.getD "").toList ++ writeParams dsn.params)

end SqlMigrations.Dsn
