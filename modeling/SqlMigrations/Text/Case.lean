import SqlMigrations.Text.CaseTable

/-!
Case mapping of text. ASCII letters move by 32; other characters follow the full mappings of the
Unicode character database, which may yield several characters. A capital sigma is lowered to its
final form at the end of a word and to its medial form elsewhere.
-/

namespace SqlMigrations.Text

def isAsciiAlphanumeric (c : Char) : Bool :=
  ('0' ≤ c && c ≤ '9') || ('A' ≤ c && c ≤ 'Z') || ('a' ≤ c && c ≤ 'z')

/-- An ASCII capital to its small letter; other characters stay. -/
def asciiLower (c : Char) : Char :=
  if 'A' ≤ c ∧ c ≤ 'Z' then Char.ofNat (c.toNat + 32) else c

/-- An ASCII small letter to its capital; other characters stay. -/
def asciiUpper (c : Char) : Char :=
  if 'a' ≤ c ∧ c ≤ 'z' then Char.ofNat (c.toNat - 32) else c

/-- What follows a word at the start of the text, whatever the case of its ASCII letters. -/
def stripWord? : (word text : List Char) → Option (List Char)
  | [], text => some text
  | _ :: _, [] => none
  | w :: word, c :: text => if asciiLower c = w then stripWord? word text else none

theorem stripWord?_length {word text rest : List Char}
    (found : stripWord? word text = some rest) :
    text.length = word.length + rest.length := by
  induction word generalizing text with
  | nil =>
    cases text <;> simp_all [stripWord?]
  | cons w word induction =>
    cases text with
    | nil => simp [stripWord?] at found
    | cons c text =>
      simp only [stripWord?] at found
      split at found
      · have shorter := induction found
        simp only [List.length_cons]
        omega
      · contradiction

/-- The image of a code point under the first run that holds it, or itself. -/
def mapByRuns (runs : List CaseRun) (code : Nat) : Nat :=
  (runs.findSome? (fun run => run.image? code)).getD code

def lowerChar (c : Char) : List Char :=
  if c.toNat < 128 then [asciiLower c]
  else if c.toNat = 0x130 then ['i', Char.ofNat 0x307]
  else [Char.ofNat (mapByRuns lowerRuns c.toNat)]

def upperChar (c : Char) : List Char :=
  if c.toNat < 128 then [asciiUpper c]
  else
    match upperExpansions.find? (fun entry => entry.1 == c.toNat) with
    | some entry => entry.2.map Char.ofNat
    | none => [Char.ofNat (mapByRuns upperRuns c.toNat)]

def inRanges (ranges : List (Nat × Nat)) (code : Nat) : Bool :=
  ranges.any (fun range => range.1 ≤ code && code ≤ range.2)

def startsCased (text : List Char) : Bool :=
  match text.dropWhile (fun c => inRanges caseIgnorableRanges c.toNat) with
  | [] => false
  | c :: _ => inRanges casedRanges c.toNat

/-- Lowers a text; `before` holds the characters already passed, nearest first. -/
def lowerAfter (before : List Char) : List Char → List Char
  | [] => []
  | c :: rest =>
    (if c.toNat = 0x3A3 then
      if startsCased before && !startsCased rest then [Char.ofNat 0x3C2] else [Char.ofNat 0x3C3]
    else lowerChar c) ++ lowerAfter (c :: before) rest

def lower (text : List Char) : List Char :=
  lowerAfter [] text

def upper (text : List Char) : List Char :=
  text.flatMap upperChar

def lowered (text : String) : String :=
  String.ofList (lower text.toList)

end SqlMigrations.Text
