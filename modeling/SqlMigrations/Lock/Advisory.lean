import SqlMigrations.Dialect
import SqlMigrations.Runner.Database
import SqlMigrations.Text.Number

/-!
Advisory locks. PostgreSQL locks by the hash of a key text and MySQL by a name, the hexadecimal form
of that hash; a SQLite transaction holds the database as it is. A MySQL lock outlives the
transaction and is released on its own.
-/

namespace SqlMigrations.Lock

/-- One step of the hash, in 64-bit arithmetic that wraps around. -/
def mix (hash : Int64) (c : Char) : Int64 :=
  hash * 33 + Int64.ofNat c.toNat

def hashKey (key : String) : Int64 :=
  key.toList.foldl mix 5381

def mysqlName (key : String) : String :=
  String.ofList (Text.signedHex (hashKey key).toInt)

variable {σ : Type}

/-- Takes the lock for a key inside a transaction. -/
def acquire (database : Database σ) (dialect : Dialect) (key : String) (state : σ) :
    Except ConnectionError Unit × σ :=
  match dialect with
  | .sqlite => (.ok (), state)
  | .postgres =>
    match database.send (.lock key) state with
    | (.ok _, after) => (.ok (), after)
    | (.error failure, after) =>
      (.error (.lockFailed ("advisory lock: " ++ failure.message)), after)
  | .mysql =>
    match database.send (.lock key) state with
    | (.ok granted, after) =>
      if granted = some 1 then (.ok (), after)
      else (.error (.lockFailed "timeout or error"), after)
    | (.error failure, after) => (.error (.lockFailed failure.message), after)

def release (database : Database σ) (dialect : Dialect) (key : String) (state : σ) :
    Except ConnectionError Unit × σ :=
  match dialect with
  | .sqlite | .postgres => (.ok (), state)
  | .mysql =>
    match database.send (.unlock key) state with
    | (.ok _, after) => (.ok (), after)
    | (.error failure, after) => (.error (.driver failure), after)

def checkDialect (opened : Dialect) (name : String) : Except ConnectionError Unit :=
  match Dialect.ofName? name with
  | none => .error (.lockFailed ("locking not supported for driver: " ++ name))
  | some dialect =>
    if dialect = opened then .ok ()
    else
      .error (.lockFailed
        ("driver " ++ dialect.name ++ " does not match " ++ opened.name ++ " connection"))

/-- Takes the lock for a key by driver name. -/
def acquireNamed (database : Database σ) (opened : Dialect) (name key : String) (state : σ) :
    Except ConnectionError Unit × σ :=
  match checkDialect opened name with
  | .error problem => (.error problem, state)
  | .ok () => acquire database opened key state

def releaseNamed (database : Database σ) (opened : Dialect) (name key : String) (state : σ) :
    Except ConnectionError Unit × σ :=
  match checkDialect opened name with
  | .error problem => (.error problem, state)
  | .ok () => release database opened key state

end SqlMigrations.Lock
