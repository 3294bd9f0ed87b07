namespace SqlMigrations.Text

/-- Why a text is no unsigned number. -/
inductive NumberError where
  | empty
  | invalidDigit
  | tooLarge
  deriving Repr, DecidableEq

def NumberError.message : NumberError → String
  | .empty => "cannot parse integer from empty string"
  | .invalidDigit => "invalid digit found in string"
  | .tooLarge => "number too large to fit in target type"

def isDigit (c : Char) : Bool :=
  '0' ≤ c && c ≤ '9'

def digitValue (c : Char) : Nat :=
  c.toNat - '0'.toNat

/-- Reads the digits that follow a number already read, up to `bound`. -/
def readDigits (bound : Nat) (value : Nat) : List Char → Except NumberError Nat
  | [] => .ok value
  | c :: rest =>
    if isDigit c then
      if 10 * value + digitValue c ≤ bound then readDigits bound (10 * value + digitValue c) rest
      else .error .tooLarge
    else .error .invalidDigit

/-- Reads an unsigned number up to `bound`. -/
def readUnsigned (bound : Nat) : List Char → Except NumberError Nat
  | [] => .error .empty
  | ['+'] => .error .invalidDigit
  | '+' :: rest => readDigits bound 0 rest
  | text => readDigits bound 0 text

/-- A signed number in hexadecimal digits, with a minus sign if it is negative. -/
def signedHex (value : Int) : List Char :=
  if value < 0 then '-' :: Nat.toDigits 16 value.natAbs else Nat.toDigits 16 value.natAbs

def hexDigitValue? (c : Char) : Option Nat :=
  if '0' ≤ c ∧ c ≤ '9' then some (c.toNat - 48)
  else if 'a' ≤ c ∧ c ≤ 'f' then some (c.toNat - 87)
  else none

/-- Reads hexadecimal digits that follow a number already read. -/
def readHexDigits? (value : Nat) : List Char → Option Nat
  | [] => some value
  | c :: rest =>
    match hexDigitValue? c with
    | some digit => readHexDigits? (16 * value + digit) rest
    | none => none

/-- Reads a signed hexadecimal number; at least one digit is needed. -/
def readSignedHex? : List Char → Option Int
  | [] => none
  | ['-'] => none
  | '-' :: digits => (readHexDigits? 0 digits).map (fun value => -(Int.ofNat value))
  | digits => (readHexDigits? 0 digits).map Int.ofNat

end SqlMigrations.Text
