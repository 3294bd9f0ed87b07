import SqlMigrations.Text.Number
import SqlMigrations.Toml.Text
import SqlMigrations.Toml.Value

namespace SqlMigrations.Toml

def digit? (base : Nat) (c : Char) : Option Nat :=
  (hexValue? c).filter (fun value => decide (value < base))

/-- Reads the digits that follow a number; an underscore must stand between two of them. -/
def readMoreDigits? (base value : Nat) : List Char → Reading Nat
  | [] => some (value, [])
  | c :: rest =>
    match digit? base c with
    | some digit => readMoreDigits? base (base * value + digit) rest
    | none =>
      if c = '_' then
        if (rest.head?.bind (digit? base)).isSome then readMoreDigits? base value rest else none
      else some (value, c :: rest)

def readDigits? (base : Nat) (text : List Char) : Reading Nat :=
  if (text.head?.bind (digit? base)).isSome then readMoreDigits? base 0 text else none

/-- Reads an unsigned decimal number without needless zeros. -/
def readDecimal? : List Char → Reading Nat
  | [] => none
  | c :: rest => if c = '0' then some (0, rest) else readDigits? 10 (c :: rest)

/-- The sign at the start of a text, plus unless it says otherwise, and what follows it. -/
def cutSign : List Char → Bool × List Char
  | '-' :: rest => (true, rest)
  | '+' :: rest => (false, rest)
  | text => (false, text)

/-- The least number whose positive integer does not fit 64 bits. -/
def integerBound : Nat :=
  0x8000000000000000

/-- An integer, if it fits 64 bits. -/
def integer? (negative : Bool) (value : Nat) : Option Value :=
  if negative then if value ≤ integerBound then some (.integer (-Int.ofNat value)) else none
  else if value < integerBound then some (.integer (Int.ofNat value)) else none

def asInteger? (negative : Bool) (reading : Reading Nat) : Reading Value :=
  reading.bind (fun read => (integer? negative read.1).map (fun value => (value, read.2)))

def readInteger? (text : List Char) : Reading Value :=
  match text with
  | '0' :: 'x' :: rest => asInteger? false (readDigits? 16 rest)
  | '0' :: 'o' :: rest => asInteger? false (readDigits? 8 rest)
  | '0' :: 'b' :: rest => asInteger? false (readDigits? 2 rest)
  | _ => asInteger? (cutSign text).1 (readDecimal? (cutSign text).2)

def afterWord? (word : String) (text : List Char) : Option (List Char) :=
  Text.stripStart? word.toList text

/-- What follows the exponent of a fraction. -/
def afterExponent? : List Char → Option (List Char)
  | [] => none
  | c :: rest =>
    if c = 'e' ∨ c = 'E' then (readDigits? 10 (cutSign rest).2).map Prod.snd else none

/-- What follows the decimals of a fraction. -/
def afterDecimals? (text : List Char) : Option (List Char) :=
  (afterWord? "." text).bind (fun rest => (readDigits? 10 rest).map Prod.snd)

/-- Reads a fraction: a number with decimals or an exponent, or one of the special words. -/
def readFraction? (text : List Char) : Reading Value :=
  let unsigned := (cutSign text).2
  let after :=
    match afterWord? "inf" unsigned, afterWord? "nan" unsigned, readDecimal? unsigned with
    | some rest, _, _ => some rest
    | none, some rest, _ => some rest
    | none, none, some (_, rest) =>
      match afterExponent? rest, afterDecimals? rest with
      | some further, _ => some further
      | none, some further => some ((afterExponent? further).getD further)
      | none, none => none
    | none, none, none => none
  after.map (fun rest => (.fraction, rest))

/-- Reads a number of exactly `count` digits between two bounds. -/
def readField? (count low high : Nat) (text : List Char) : Reading Nat :=
  if (text.take count).length = count ∧ (text.take count).all Text.isDigit = true then
    let value := (text.take count).foldl (fun number c => 10 * number + Text.digitValue c) 0
    if low ≤ value ∧ value ≤ high then some (value, text.drop count) else none
  else none

def isLeapYear (year : Nat) : Bool :=
  year % 4 == 0 && (year % 100 != 0 || year % 400 == 0)

def daysOf (year month : Nat) : Nat :=
  if month = 2 then if isLeapYear year then 29 else 28
  else if [4, 6, 9, 11].contains month then 30
  else 31

def afterDate? (text : List Char) : Option (List Char) := do
  let (year, afterYear) ← readField? 4 0 9999 text
  let (month, afterMonth) ← readField? 2 1 12 (← afterWord? "-" afterYear)
  let (_, rest) ← readField? 2 1 (daysOf year month) (← afterWord? "-" afterMonth)
  return rest

/-- What follows a time of day; a leap second counts. -/
def afterTime? (text : List Char) : Option (List Char) := do
  let (_, afterHour) ← readField? 2 0 23 text
  let (_, afterMinute) ← readField? 2 0 59 (← afterWord? ":" afterHour)
  let (_, afterSecond) ← readField? 2 0 60 (← afterWord? ":" afterMinute)
  match afterSecond with
  | '.' :: digits =>
    if (digits.takeWhile Text.isDigit).isEmpty then none
    else return digits.dropWhile Text.isDigit
  | rest => return rest

/-- What follows the offset of a time of day, if there is one. -/
def afterOffset (text : List Char) : List Char :=
  match text with
  | [] => []
  | c :: rest =>
    if c = 'Z' ∨ c = 'z' then rest
    else if c = '+' ∨ c = '-' then
      ((do
        let (_, afterHour) ← readField? 2 0 23 rest
        let (_, further) ← readField? 2 0 59 (← afterWord? ":" afterHour)
        return further : Option (List Char))).getD text
    else text

/-- What follows a time of day that completes a date. -/
def afterDayTime? : List Char → Option (List Char)
  | [] => none
  | c :: rest =>
    if c = 'T' ∨ c = 't' ∨ c = ' ' then (afterTime? rest).map afterOffset else none

def readMoment? (text : List Char) : Reading Value :=
  let after :=
    match afterDate? text with
    | some rest => some ((afterDayTime? rest).getD rest)
    | none => afterTime? text
  after.map (fun rest => (.moment, rest))

def readNumber? (text : List Char) : Reading Value :=
  match readMoment? text, readFraction? text with
  | some read, _ => some read
  | none, some read => some read
  | none, none => readInteger? text

end SqlMigrations.Toml
