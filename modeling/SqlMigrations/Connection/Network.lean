import SqlMigrations.Connection.IpAddress
import SqlMigrations.Error

/-!
Reaching servers from a host without a network. No address has a route; of names only the host's
own is known without a name server, and every address in the notations of the socket library is
its own name.
-/

namespace SqlMigrations.Network

inductive Obstacle where
  | unreachable
  | noAddress
  | invalidArgument
  | invalidName
  | noNameServer
  | unknownName
  deriving Repr, DecidableEq

def Obstacle.message : Obstacle → String
  | .unreachable => "Network is unreachable (os error 101)"
  | .noAddress => "Cannot assign requested address (os error 99)"
  | .invalidArgument => "Invalid argument (os error 22)"
  | .invalidName => "file name contained an unexpected NUL byte"
  | .noNameServer =>
    "failed to lookup address information: Temporary failure in name resolution"
  | .unknownName => "failed to lookup address information: Name or service not known"

/-- The obstacle on the way to an IPv6 address, by its first group: an address of one link needs the
name of the link, and addresses of groups and of IPv4 hosts have no route. -/
def obstacleV6 : List Nat → Obstacle
  | [0, 0, 0, 0, 0, 0xFFFF, _, _] => .unreachable
  | first :: _ =>
    if first / 64 = 0x3FA then .invalidArgument
    else if first / 256 = 0xFF then .unreachable
    else .noAddress
  | [] => .noAddress

def obstacleTo : IpAddress → Obstacle
  | .v4 _ => .unreachable
  | .v6 groups => obstacleV6 groups

/-- Reads a number with an optional mark of its base: `0x` for sixteen and `0` for eight. -/
def readMarkedNumber? (text : List Char) : Option Nat :=
  match text.map Text.asciiLower with
  | [] => none
  | '0' :: 'x' :: digits => if digits.isEmpty then none else Text.readHexDigits? 0 digits
  | '0' :: digits =>
    if digits.all (fun c => '0' ≤ c && c ≤ '7') then
      some (digits.foldl (fun value c => 8 * value + Text.digitValue c) 0)
    else none
  | digits =>
    if digits.all Text.isDigit then
      some (digits.foldl (fun value c => 10 * value + Text.digitValue c) 0)
    else none

/-- Whether numbers make up an IPv4 address, of which the last one fills what is left. -/
def fillsAddress : (room : Nat) → List Nat → Bool
  | _, [] => false
  | room, [last] => decide (last < 256 ^ room)
  | room, number :: numbers => decide (number < 256) && fillsAddress (room - 1) numbers

/-- Whether a text is an IPv4 address in one of the notations with one to four numbers. -/
def isNumericHost (text : List Char) : Bool :=
  match (Text.splitAll '.' text).mapM readMarkedNumber? with
  | some numbers => decide (numbers.length ≤ 4) && fillsAddress 4 numbers
  | none => false

/-- Whether a character may stand in a name of a host. -/
def isNameCharacter (c : Char) : Bool :=
  Text.isAsciiAlphanumeric c || c == '-' || c == '_'

def isLabel (label : List Char) : Bool :=
  !label.isEmpty && decide (label.length ≤ 63) && label.all isNameCharacter

/-- Whether a text may be the name of a host: labels with dots between them and perhaps one at the
end, the first of which does not start with a dash. -/
def isHostName (text : List Char) : Bool :=
  let labels := Text.splitAll '.' ((Text.stripEnd? ['.'] text).getD text)
  text == ['.'] ||
    (labels.all isLabel && text.head? != some '-' && decide (text.length ≤ 254))

def obstacleToName (name : List Char) : Obstacle :=
  if name.contains '\x00' then .invalidName
  else if isNumericHost name || name.map Text.asciiLower = "localhost".toList then .unreachable
  else if isHostName name then .noNameServer
  else .unknownName

/-- A text without the square brackets around it. -/
def dropBrackets (text : List Char) : List Char :=
  let isBracket := fun (c : Char) => c == '[' || c == ']'
  ((text.dropWhile isBracket).reverse.dropWhile isBracket).reverse

/-- The obstacle on the way to a host; brackets around it do not count. -/
def obstacle (host : String) : Obstacle :=
  let bare := dropBrackets host.toList
  match IpAddress.read? bare with
  | some address => obstacleTo address
  | none => obstacleToName bare

/-- The report of a driver that cannot reach a host. -/
def failure (host : String) : DriverFailure :=
  .network (obstacle host).message

end SqlMigrations.Network
