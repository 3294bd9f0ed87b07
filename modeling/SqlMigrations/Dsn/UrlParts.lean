import SqlMigrations.Error
import SqlMigrations.Text.Case
import SqlMigrations.Text.FormUrl
import SqlMigrations.Text.Search

namespace SqlMigrations.Dsn

/-- The text that a percent-encoded part stands for. -/
def readPercent (part : List Char) : Except DriverFailure String :=
  match Text.Utf8.decode (Text.FormUrl.unescape 0x2B (Text.Utf8.encode part)) with
  | .ok text => .ok (String.ofList text)
  | .error fault => .error (.configuration fault.message)

/-- A segment with its percent-encoded dots decoded. -/
def plainDots : List Char → List Char
  | '%' :: '2' :: c :: rest =>
    if c = 'e' ∨ c = 'E' then '.' :: plainDots rest else '%' :: '2' :: c :: plainDots rest
  | c :: rest => c :: plainDots rest
  | [] => []

/-- Whether a segment is a drive: a letter and a colon or a bar. -/
def isDrive (segment : List Char) : Bool :=
  match segment with
  | letter :: mark :: rest =>
    let lower := Text.asciiLower letter
    'a' ≤ lower && lower ≤ 'z' && (mark == ':' || mark == '|') &&
      (rest.isEmpty || rest.head? == some '\\')
  | _ => false

/-- The segments, nearest first, with the nearest one taken back; the root and a drive stay. -/
def shortenPath : List (List Char) → List (List Char)
  | segment :: below :: rest => if isDrive segment then segment :: below :: rest else below :: rest
  | root => root

/-- The segments, nearest first, with one more that a slash follows. -/
def addSegment (before : List (List Char)) (segment : List Char) : List (List Char) :=
  if plainDots segment = ['.', '.'] then shortenPath before
  else if plainDots segment = ['.'] then before
  else segment :: before

def closePath (before : List (List Char)) (last : List Char) : List Char :=
  let front := if plainDots last = ['.', '.'] then shortenPath before else before
  let back := if plainDots last = ['.', '.'] ∨ plainDots last = ['.'] then [] else last
  front.reverse.flatMap (fun segment => segment ++ ['/']) ++ back

/-- The normal form of a path, which starts with a slash unless it is empty. -/
def normalPath (path : List Char) : List Char :=
  let segments := Text.splitAll '/' path
  closePath (segments.dropLast.foldl addSegment []) (segments.getLast?.getD [])

end SqlMigrations.Dsn
