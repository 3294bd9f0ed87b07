/-!
Blank characters and trimming. Two classes occur: the full class of white space characters, which
trimming removes, and the six ASCII ones, which patterns call blank. The ASCII class lies inside
the full one.
-/

namespace SqlMigrations.Text

/-- The six ASCII blanks: tab, line feed, vertical tab, form feed, carriage return and space. -/
def isAsciiBlank (c : Char) : Bool :=
  (9 ≤ c.toNat && c.toNat ≤ 13) || c.toNat == 32

/-- The characters with the property White_Space. -/
def isBlank (c : Char) : Bool :=
  isAsciiBlank c || c.toNat == 0x85 || c.toNat == 0xA0 || c.toNat == 0x1680 ||
    (0x2000 ≤ c.toNat && c.toNat ≤ 0x200A) || c.toNat == 0x2028 || c.toNat == 0x2029 ||
    c.toNat == 0x202F || c.toNat == 0x205F || c.toNat == 0x3000

theorem isBlank_of_isAsciiBlank {c : Char} (blank : isAsciiBlank c = true) : isBlank c = true := by
  simp [isBlank, blank]

def trimStart (text : List Char) : List Char :=
  text.dropWhile isBlank

def dropEndWhile (inClass : Char → Bool) (text : List Char) : List Char :=
  (text.reverse.dropWhile inClass).reverse

def trimEnd (text : List Char) : List Char :=
  dropEndWhile isBlank text

/-- The text without the blanks around it. -/
def trim (text : List Char) : List Char :=
  trimEnd (trimStart text)

/-- The string without the blanks around it. -/
def trimmed (text : String) : String :=
  String.ofList (trim text.toList)

end SqlMigrations.Text
