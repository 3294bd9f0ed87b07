/-!
Reading bytes as UTF-8. The bytes are cut into pieces once: characters, malformed runs and a
truncated end. Strict reading stops at the first piece that is no character and says where it
stands; lenient reading puts a replacement character for it.
-/

namespace SqlMigrations.Text.Utf8

/-- What stands at one place of a byte sequence. -/
inductive Piece where
  | char (c : Char)
  | malformed (length : Nat)
  | truncated
  deriving Repr, DecidableEq

/-- Whether a byte continues a character. -/
def isTail (byte : UInt8) : Bool :=
  0x80 ≤ byte && byte ≤ 0xBF

/-- Whether `second` may follow the first byte of a character of three bytes. -/
def followsOfThree (first second : UInt8) : Bool :=
  if first = 0xE0 then 0xA0 ≤ second && second ≤ 0xBF
  else if first = 0xED then 0x80 ≤ second && second ≤ 0x9F
  else isTail second

/-- Whether `second` may follow the first byte of a character of four bytes. -/
def followsOfFour (first second : UInt8) : Bool :=
  if first = 0xF0 then 0x90 ≤ second && second ≤ 0xBF
  else if first = 0xF4 then 0x80 ≤ second && second ≤ 0x8F
  else isTail second

def payload (byte : UInt8) : Nat :=
  byte.toNat % 64

/-- Cuts bytes into pieces; a malformed run ends before the first byte that cannot continue it. -/
def pieces : List UInt8 → List Piece
  | [] => []
  | a :: rest =>
    if a < 0x80 then .char (Char.ofNat a.toNat) :: pieces rest
    else if 0xC2 ≤ a && a ≤ 0xDF then
      match rest with
      | [] => [.truncated]
      | b :: more =>
        if isTail b then .char (Char.ofNat (a.toNat % 32 * 64 + payload b)) :: pieces more
        else .malformed 1 :: pieces (b :: more)
    else if 0xE0 ≤ a && a ≤ 0xEF then
      match rest with
      | [] => [.truncated]
      | b :: more =>
        if followsOfThree a b then
          match more with
          | [] => [.truncated]
          | c :: last =>
            if isTail c then
              .char (Char.ofNat (a.toNat % 16 * 4096 + payload b * 64 + payload c)) :: pieces last
            else .malformed 2 :: pieces (c :: last)
        else .malformed 1 :: pieces (b :: more)
    else if 0xF0 ≤ a && a ≤ 0xF4 then
      match rest with
      | [] => [.truncated]
      | b :: more =>
        if followsOfFour a b then
          match more with
          | [] => [.truncated]
          | c :: further =>
            if isTail c then
              match further with
              | [] => [.truncated]
              | d :: last =>
                if isTail d then
                  .char (Char.ofNat
                    (a.toNat % 8 * 262144 + payload b * 4096 + payload c * 64 + payload d)) ::
                      pieces last
                else .malformed 3 :: pieces (d :: last)
            else .malformed 2 :: pieces (c :: further)
        else .malformed 1 :: pieces (b :: more)
    else .malformed 1 :: pieces rest
  termination_by bytes => bytes.length

/-- Where and how bytes fail to be UTF-8. -/
inductive Fault where
  | malformed (length index : Nat)
  | truncated (index : Nat)
  deriving Repr, DecidableEq

def Fault.message : Fault → String
  | .malformed length index =>
    "invalid utf-8 sequence of " ++ toString length ++ " bytes from index " ++ toString index
  | .truncated index => "incomplete utf-8 byte sequence from index " ++ toString index

/-- The text of pieces that are all characters, or the first fault; `index` bytes went before. -/
def strictFrom (index : Nat) : List Piece → Except Fault (List Char)
  | [] => .ok []
  | .char c :: rest => (strictFrom (index + c.utf8Size) rest).map (c :: ·)
  | .malformed length :: _ => .error (.malformed length index)
  | .truncated :: _ => .error (.truncated index)

def decode (bytes : List UInt8) : Except Fault (List Char) :=
  strictFrom 0 (pieces bytes)

/-- The character a piece stands for when faults are tolerated. -/
def Piece.lenient : Piece → Char
  | .char c => c
  | .malformed _ => Char.ofNat 0xFFFD
  | .truncated => Char.ofNat 0xFFFD

/-- The text of the bytes, with a replacement character for each fault. -/
def decodeLenient (bytes : List UInt8) : List Char :=
  (pieces bytes).map Piece.lenient

def encode (text : List Char) : List UInt8 :=
  text.flatMap String.utf8EncodeChar

end SqlMigrations.Text.Utf8
