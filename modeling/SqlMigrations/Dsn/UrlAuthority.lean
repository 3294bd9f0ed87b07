import SqlMigrations.Connection.IpAddress

/-!
The authority of a connection URL: `[user[:password]@]host[:port]`. The last at sign ends the
credentials, and a host in square brackets is an IPv6 address, whose colons open no port. A
backslash ends the port and belongs to what follows the authority.
-/

namespace SqlMigrations.Dsn

/-- Why an authority cannot be read. -/
inductive AuthorityProblem where
  | emptyHost
  | invalidPort
  | invalidCharacter
  | invalidIpv6
  deriving Repr, DecidableEq

def AuthorityProblem.message : AuthorityProblem → String
  | .emptyHost => "empty host"
  | .invalidPort => "invalid port number"
  | .invalidCharacter => "invalid domain character"
  | .invalidIpv6 => "invalid IPv6 address"

/-- The host and the port of an authority, and the text that a backslash opens behind them. -/
structure UrlServer where
  host : List Char
  port : Option Nat
  rest : List Char
  deriving Repr, DecidableEq

/-- The parts of an authority, the credentials still encoded. -/
structure Authority where
  user : List Char
  password : Option (List Char)
  server : UrlServer
  deriving Repr, DecidableEq

def forbiddenInHost : List Char :=
  ['\x00', '\t', '\n', '\r', ' ', '#', '/', ':', '<', '>', '?', '@', '[', '\\', ']', '^', '|']

def checkHost (host : List Char) : Except AuthorityProblem Unit :=
  match host with
  | '[' :: rest =>
    match Text.stripEnd? [']'] rest with
    | some address =>
      if (IpAddress.readV6? address).isSome then .ok () else .error .invalidIpv6
    | none => .error .invalidIpv6
  | _ => if host.any forbiddenInHost.contains then .error .invalidCharacter else .ok ()

/-- The host before the first colon outside of square brackets, and the text from the colon on. -/
def cutHost (inBrackets : Bool) : List Char → List Char × List Char
  | [] => ([], [])
  | c :: rest =>
    if c = ':' ∧ inBrackets = false then ([], c :: rest)
    else
      let cut := cutHost (if c = '[' then true else if c = ']' then false else inBrackets) rest
      (c :: cut.1, cut.2)

/-- Reads the digits of a port, which may be missing. -/
def readPortDigits (digits : List Char) : Except AuthorityProblem (Option Nat) :=
  if digits.isEmpty then .ok none
  else if digits.all Text.isDigit then
    match Text.readUnsigned 65535 digits with
    | .ok port => .ok (some port)
    | .error _ => .error .invalidPort
  else .error .invalidPort

/-- Reads what follows a host: nothing, or a colon and a port up to a backslash. -/
def readPort (text : List Char) : Except AuthorityProblem (Option Nat × List Char) :=
  match text with
  | [] => .ok (none, [])
  | _ :: after =>
    (readPortDigits (after.takeWhile (fun c => c != '\\'))).map (fun port =>
      (port, after.dropWhile (fun c => c != '\\')))

/-- Reads a host with its port; after credentials there must be a host. -/
def UrlServer.read (required : Bool) (text : List Char) : Except AuthorityProblem UrlServer := do
  let (host, after) := cutHost false text
  checkHost host
  if host.isEmpty && !after.isEmpty then .error .emptyHost
  else
    let (port, rest) ← readPort after
    if host.isEmpty && required then .error .emptyHost else .ok ⟨host, port, rest⟩

/-- The user and the password of the credentials of an authority; an empty password counts as
none. -/
def cutCredentials (credentials : List Char) : List Char × Option (List Char) :=
  match Text.splitFirst? ':' credentials with
  | some (user, password) => (user, if password.isEmpty then none else some password)
  | none => (credentials, none)

def Authority.read (text rest : List Char) : Except AuthorityProblem Authority :=
  match Text.splitLast? '@' text with
  | none => (UrlServer.read false text).map (fun server => ⟨[], none, server⟩)
  | some (credentials, server) =>
    if credentials.isEmpty && server.isEmpty && !rest.isEmpty then .error .emptyHost
    else
      let (user, password) := cutCredentials credentials
      (UrlServer.read (!user.isEmpty || password.isSome) server).map (fun server =>
        ⟨user, password, server⟩)

end SqlMigrations.Dsn
