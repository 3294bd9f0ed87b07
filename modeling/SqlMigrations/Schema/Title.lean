import SqlMigrations.Text.Case
import SqlMigrations.Text.Search

/-!
Titles of names. A name is cut at its underscores; known initialisms are written in capitals and
other words get a capital first letter. A trailing `Id` in camel case is a word of its own.
-/

namespace SqlMigrations.Schema

/-- Words that are written in capitals. -/
def initialisms : List String :=
  ["ACL", "AMQP", "API", "ASCII", "CPU", "CSS", "DB", "DNS", "EOF", "GID", "GUID", "HTML", "HTTP",
    "HTTPS", "ID", "IP", "JSON", "QPS", "RAM", "RPC", "RTP", "SIP", "SLA", "SMTP", "SQL", "SSH",
    "TCP", "TLS", "TS", "TTL", "UDP", "UI", "UID", "UUID", "URI", "URL", "UTF8", "VM", "XML",
    "XMPP", "XSRF", "XSS"]

/-- A word with its first letter in upper case. -/
def capitalize : List Char → List Char
  | [] => []
  | c :: rest => Text.upperChar c ++ rest

def titleWord (word : List Char) : List Char :=
  if initialisms.contains (String.ofList (Text.upper word)) then Text.upper word
  else capitalize word

/-- The name with a trailing `Id` written as `_id`, unless the name is nothing else. -/
def splitIdSuffix (name : List Char) : List Char :=
  match Text.stripEnd? ['I', 'd'] name with
  | some [] => name
  | some (c :: head) => c :: head ++ ['_', 'i', 'd']
  | none => name

def titleWords (name : List Char) : List (List Char) :=
  (Text.splitAll '_' (splitIdSuffix name)).map titleWord

def title (name : String) : String :=
  String.ofList (Text.joinAll ' ' (titleWords name.toList))

end SqlMigrations.Schema
