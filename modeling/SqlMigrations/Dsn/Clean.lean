import SqlMigrations.Dialect
import SqlMigrations.Text.Search

namespace SqlMigrations.Dsn

/-- A session option: the text that shows it is mentioned, and the option as it is appended. -/
structure DefaultOption where
  mark : String
  option : String
  deriving Repr, DecidableEq

/-- The session options of MySQL, in the order in which they are appended. -/
def mysqlDefaults : List DefaultOption :=
  [⟨"collation=", "&collation=utf8mb4_general_ci"⟩, ⟨"parseTime=", "&parseTime=true"⟩,
    ⟨"loc=", "&loc=Local"⟩]

def addDefault (dsn : List Char) (default : DefaultOption) : List Char :=
  if Text.occursIn default.mark.toList dsn then dsn else dsn ++ default.option.toList

/-- A MySQL string with a query part that mentions every default option. -/
def addDefaults (dsn : List Char) : List Char :=
  let queried := if dsn.contains '?' then dsn else dsn ++ ['?']
  Text.replaceFirst "?&".toList "?".toList (mysqlDefaults.foldl addDefault queried)

def dropScheme (scheme : String) (dsn : List Char) : List Char :=
  (Text.stripStart? scheme.toList dsn).getD dsn

/-- The connection string as the driver of the dialect takes it. -/
def cleanFor (dialect : Dialect) (dsn : String) : String :=
  match dialect with
  | .postgres => dsn
  | .sqlite => String.ofList (dropScheme "sqlite://" dsn.toList)
  | .mysql => String.ofList (addDefaults (dropScheme "mysql://" dsn.toList))

def clean (dsn : String) : String :=
  cleanFor (Dialect.ofDsn dsn) dsn

end SqlMigrations.Dsn
