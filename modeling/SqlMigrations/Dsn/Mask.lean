import SqlMigrations.Dialect
import SqlMigrations.Text.Search

/-!
Hiding credentials in a connection string. On every line, what stands before the last at sign is
taken as a user and a password around the last colon that leaves two characters on either side;
of both only the first and the last character remain.
-/

namespace SqlMigrations.Dsn

/-- The four characters that stand for hidden text. -/
def veil : List Char :=
  ['*', '*', '*', '*']

/-- A user text, given backwards, by its first and last character; it needs two characters. -/
def veilUser? : List Char → Option (List Char)
  | last :: second :: more => some ((second :: more).getLast (by simp) :: veil ++ [last])
  | _ => none

/-- The credentials with user and password veiled, if they have that form. -/
def veilCredentials? (credentials : List Char) : Option (List Char) :=
  match credentials.reverse with
  | last :: second :: more =>
    match Text.splitFirst? ':' more with
    | some (gap, user) =>
      (veilUser? user).map (fun veiled =>
        veiled ++ ':' :: (second :: gap).getLast (by simp) :: veil ++ [last])
    | none => none
  | _ => none

/-- One line with its credentials veiled; a line without credentials stays as it is. -/
def veilLine (line : List Char) : List Char :=
  match Text.splitLast? '@' line with
  | some (credentials, rest) =>
    match veilCredentials? credentials with
    | some veiled => veiled ++ '@' :: rest
    | none => line
  | none => line

def veilLines (text : List Char) : List Char :=
  Text.joinAll '\n' ((Text.splitAll '\n' text).map veilLine)

/-- The connection string as it is written to logs; a SQLite string is a path and stays. -/
def mask (dialect : Dialect) (dsn : String) : String :=
  match dialect with
  | .sqlite => dsn
  | .postgres | .mysql => String.ofList (veilLines dsn.toList)

end SqlMigrations.Dsn
