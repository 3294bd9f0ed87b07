import SqlMigrations.Dialect

namespace SqlMigrations.Catalog

inductive CatalogError where
  | query (context : String) (failure : DriverFailure)
  | unknownDialect (name : String)
  | dialectMismatch (reader opened : Dialect)
  | tableNotFound (table : String)
  | emptyQuery
  | connection (error : ConnectionError)
  deriving Repr, DecidableEq

def CatalogError.message : CatalogError → String
  | .query context failure => "failed to " ++ context ++ ": " ++ failure.message
  | .unknownDialect name => "unknown dialect: " ++ name
  | .dialectMismatch reader opened =>
    reader.name ++ " describer cannot use a " ++ opened.name ++ " connection"
  | .tableNotFound table => "table not found: " ++ table
  | .emptyQuery => "query cannot be empty"
  | .connection error => error.message

/-- What a driver replies: the value, or the report of a failure. -/
abbrev Reply (α : Type) :=
  Except DriverFailure α

/-- A request to the database while its catalog is read. -/
inductive Request where
  | statement (sql : String)
  | tables
  | tableComment (table : String)
  | columns (table : String)
  | indexes (table : String)
  | enumLabels (type : String)
  | temporaryColumns (object : String)
  | temporaryInfo (object : String)
  | tableInfo (table : String)
  | indexList (table : String)
  | indexInfo (index : String)
  | createText (table : String)
  deriving Repr, DecidableEq

/-- Where a request is sent: on whichever connection the pool picks for it, or on one that was taken
from the pool before. -/
inductive Channel where
  | pooled
  | held (connection : Nat)
  deriving Repr, DecidableEq

structure Sending where
  channel : Channel
  request : Request
  deriving Repr, DecidableEq

/-- The course of a reading. -/
structure Inspection (α : Type) where
  sendings : List Sending
  result : Except CatalogError α

namespace Inspection

/-- The requests of a reading, in order. -/
def sent {α : Type} (inspection : Inspection α) : List Request :=
  inspection.sendings.map Sending.request

def done {α : Type} (value : α) : Inspection α :=
  ⟨[], .ok value⟩

/-- A reading that stops with an error. -/
def fail {α : Type} (error : CatalogError) : Inspection α :=
  ⟨[], .error error⟩

/-- A reading followed by another one that depends on its value. -/
def andThen {α β : Type} (first : Inspection α) (next : α → Inspection β) : Inspection β :=
  match first.result with
  | .ok value => ⟨first.sendings ++ (next value).sendings, (next value).result⟩
  | .error error => ⟨first.sendings, .error error⟩

instance : Monad Inspection where
  pure := done
  bind := andThen

/-- A step without a request whose failure is an error in the given context. -/
def require {α : Type} (context : String) (reply : Reply α) : Inspection α :=
  ⟨[], reply.mapError (CatalogError.query context)⟩

/-- One request whose failure does not stop the reading. -/
def attempt {α : Type} (channel : Channel) (request : Request) (reply : Reply α) :
    Inspection (Reply α) :=
  ⟨[⟨channel, request⟩], .ok reply⟩

def ask {α : Type} (channel : Channel) (request : Request) (context : String) (reply : Reply α) :
    Inspection α :=
  ⟨[⟨channel, request⟩], reply.mapError (CatalogError.query context)⟩

/-- One request that is made at best: a failure counts as the given value. -/
def lookUp {α : Type} (channel : Channel) (request : Request) (default : α) (reply : Reply α) :
    Inspection α :=
  ⟨[⟨channel, request⟩], .ok (match reply with
    | .ok value => value
    | .error _ => default)⟩

/-- A reading for every item, in order. -/
def each {α β : Type} (read : α → Inspection β) : List α → Inspection (List β)
  | [] => done []
  | item :: items => (read item).andThen (fun value =>
      (each read items).andThen (fun values => done (value :: values)))

/-- A reading followed by another one, whatever the result of the first and of no consequence for
it. -/
def closedBy {α β : Type} (first : Inspection α) (last : Inspection β) : Inspection α :=
  ⟨first.sendings ++ last.sendings, first.result⟩

/-- A reading through a temporary object, on one connection of the pool: the object is created, read
and removed, which it is also where it could not be read. -/
def throughTemporary {α : Type} (acquired : Reply Nat) (statement : String → Reply Unit)
    (create context drop : String) (read : Channel → Inspection α) : Inspection α := do
  let connection ← require "acquire connection" acquired
  ask (.held connection) (.statement create) context (statement create)
  (read (.held connection)).closedBy
    (attempt (.held connection) (.statement drop) (statement drop))

end Inspection

def requireText (column : Nat) (cell : Option String) : Reply String :=
  match cell with
  | some text => .ok text
  | none => .error (.unexpectedNull column)

end SqlMigrations.Catalog
