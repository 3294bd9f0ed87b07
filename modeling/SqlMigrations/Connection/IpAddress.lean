import SqlMigrations.Text.Case
import SqlMigrations.Text.Number
import SqlMigrations.Text.Search

namespace SqlMigrations

inductive IpAddress where
  | v4 (numbers : List Nat)
  | v6 (groups : List Nat)
  deriving Repr, DecidableEq

namespace IpAddress

/-- Reads one number of an IPv4 address, without needless zeros. -/
def readNumber? (part : List Char) : Option Nat :=
  if part.all Text.isDigit && (part == ['0'] || part.head? != some '0') then
    (Text.readUnsigned 255 part).toOption
  else none

/-- Reads the numbers of an IPv4 address. -/
def readV4? (text : List Char) : Option (List Nat) :=
  let parts := Text.splitAll '.' text
  if parts.length = 4 then parts.mapM readNumber? else none

/-- Reads one group of an IPv6 address. -/
def readGroup? (group : List Char) : Option Nat :=
  if group.isEmpty || decide (4 < group.length) then none
  else Text.readHexDigits? 0 (group.map Text.asciiLower)

/-- The two groups that the numbers of an IPv4 address make up. -/
def groupsOfV4 : List Nat → List Nat
  | high :: low :: rest => (256 * high + low) :: groupsOfV4 rest
  | short => short

/-- Reads groups, the last of which may be an IPv4 address if `mixed` says so. -/
def readGroups? (mixed : Bool) : List (List Char) → Option (List Nat)
  | [] => some []
  | [last] =>
    match readGroup? last with
    | some group => some [group]
    | none => if mixed then (readV4? last).map groupsOfV4 else none
  | group :: groups =>
    match readGroup? group with
    | some value => (readGroups? mixed groups).map (value :: ·)
    | none => none

/-- Reads the groups of a text without a gap, which may be empty. -/
def readRun? (mixed : Bool) (text : List Char) : Option (List Nat) :=
  if text.isEmpty then some [] else readGroups? mixed (Text.splitAll ':' text)

/-- The groups around a gap with zeros in it, if at least one is missing. -/
def fillGap? (before after : List Nat) : Option (List Nat) :=
  if before.length + after.length ≤ 7 then
    some (before ++ List.replicate (8 - before.length - after.length) 0 ++ after)
  else none

/-- Reads the groups of an IPv6 address. -/
def readV6? (text : List Char) : Option (List Nat) :=
  match Text.splitOnce? [':', ':'] text with
  | none =>
    match readRun? true text with
    | some groups => if groups.length = 8 then some groups else none
    | none => none
  | some (before, after) =>
    match readRun? false before, readRun? true after with
    | some front, some back => fillGap? front back
    | _, _ => none

def read? (text : List Char) : Option IpAddress :=
  match readV4? text with
  | some numbers => some (.v4 numbers)
  | none => (readV6? text).map .v6

end IpAddress

end SqlMigrations
