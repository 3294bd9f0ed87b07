import SqlMigrations.Text.Search
import SqlMigrations.Text.Utf8

namespace SqlMigrations.Text.FormUrl

/-- The text before the first question mark and the text after it. -/
def cutQuery (text : List Char) : List Char × List Char :=
  (Text.splitFirst? '?' text).getD (text, [])

/-- The value of a hexadecimal digit. -/
def hexValue? (byte : UInt8) : Option UInt8 :=
  if 0x30 ≤ byte && byte ≤ 0x39 then some (byte - 0x30)
  else if 0x41 ≤ byte && byte ≤ 0x46 then some (byte - 0x37)
  else if 0x61 ≤ byte && byte ≤ 0x66 then some (byte - 0x57)
  else none

/-- Replaces plus signs by the byte that they stand for and percent escapes by their bytes; other
percents stay. -/
def unescape (plus : UInt8) : List UInt8 → List UInt8
  | [] => []
  | byte :: rest =>
    if byte = 0x2B then plus :: unescape plus rest
    else if byte = 0x25 then
      match rest with
      | high :: low :: more =>
        match hexValue? high, hexValue? low with
        | some h, some l => (16 * h + l) :: unescape plus more
        | _, _ => byte :: unescape plus (high :: low :: more)
      | short => byte :: unescape plus short
    else byte :: unescape plus rest
  termination_by bytes => bytes.length

def decodeComponent (text : List Char) : List Char :=
  Utf8.decodeLenient (unescape 0x20 (Utf8.encode text))

/-- The pair that a segment stands for. -/
def decodeSegment (segment : List Char) : String × String :=
  match splitFirst? '=' segment with
  | some (key, value) =>
    (String.ofList (decodeComponent key), String.ofList (decodeComponent value))
  | none => (String.ofList (decodeComponent segment), "")

/-- The pairs of an encoded text, in order. -/
def decode (text : List Char) : List (String × String) :=
  ((splitAll '&' text).filter (fun segment => !segment.isEmpty)).map decodeSegment

/-- Whether a byte is an ASCII letter or digit. -/
def isAlphanumeric (byte : UInt8) : Bool :=
  (0x30 ≤ byte && byte ≤ 0x39) || (0x41 ≤ byte && byte ≤ 0x5A) || (0x61 ≤ byte && byte ≤ 0x7A)

def isPlain (byte : UInt8) : Bool :=
  isAlphanumeric byte || byte == 0x2A || byte == 0x2D || byte == 0x2E || byte == 0x5F

/-- The hexadecimal digit of a value below sixteen. -/
def hexDigit (value : Nat) : Char :=
  if value < 10 then Char.ofNat (0x30 + value) else Char.ofNat (0x37 + value)

def encodeByte (byte : UInt8) : List Char :=
  if byte = 0x20 then ['+']
  else if isPlain byte then [Char.ofNat byte.toNat]
  else ['%', hexDigit (byte.toNat / 16), hexDigit (byte.toNat % 16)]

/-- One byte as a percent escape, unless it is a letter or a digit. -/
def escapeByte (byte : UInt8) : List Char :=
  if isAlphanumeric byte then [Char.ofNat byte.toNat]
  else ['%', hexDigit (byte.toNat / 16), hexDigit (byte.toNat % 16)]

/-- A text of letters, digits and percent escapes only. -/
def escape (text : List Char) : List Char :=
  (Utf8.encode text).flatMap escapeByte

def encodeComponent (text : List Char) : List Char :=
  (Utf8.encode text).flatMap encodeByte

/-- Pairs in encoded form, separated by ampersands. -/
def encode (pairs : List (String × String)) : List Char :=
  joinAll '&' (pairs.map (fun pair =>
    encodeComponent pair.1.toList ++ '=' :: encodeComponent pair.2.toList))

end SqlMigrations.Text.FormUrl
