import SqlMigrations.Proofs.Catalog.CheckScan

namespace SqlMigrations.Catalog

open Schema
open Text (asciiLower isBlank isAsciiBlank)

/-- A space or a tab. -/
def isGap (c : Char) : Bool :=
  c == ' ' || c == '\t'

theorem isAsciiBlank_of_isGap {c : Char} (gap : isGap c = true) : isAsciiBlank c = true := by
  rw [isGap, Bool.or_eq_true, beq_iff_eq, beq_iff_eq] at gap
  rcases gap with rfl | rfl <;> decide

theorem isBlank_of_isGap {c : Char} (gap : isGap c = true) : isBlank c = true :=
  Text.isBlank_of_isAsciiBlank (isAsciiBlank_of_isGap gap)

/-- Any number of spaces and tabs. -/
abbrev Gap := { text : List Char // ∀ c ∈ text, isGap c = true }

/-- The marks around a name. -/
inductive Wrapping where
  | bare
  | doubleQuotes
  | backquotes
  | brackets

def Wrapping.opening : Wrapping → List Char
  | .bare => []
  | .doubleQuotes => ['"']
  | .backquotes => ['`']
  | .brackets => ['[']

def Wrapping.closing : Wrapping → List Char
  | .bare => []
  | .doubleQuotes => ['"']
  | .backquotes => ['`']
  | .brackets => [']']

def Wrapping.wrap (wrapping : Wrapping) (name : List Char) : List Char :=
  wrapping.opening ++ (name ++ wrapping.closing)

/-- A line that defines a column and lists its labels in a check clause: the name, a type, the check
word, and in parentheses the name again, `IN` and the list; then a rest. -/
structure CheckLine where
  lead : Gap
  wrapping : Wrapping
  name : List Char
  gap : Gap
  type : List Char
  check : List Char
  ahead : Gap
  inside : Gap
  again : Wrapping
  apart : Gap
  inWord : List Char
  opening : Gap
  items : List (QuotedLabel isGap)
  closing : Gap
  rest : List Char
  named : name ≠ []
  word : ∀ c ∈ name, isWordChar c = true
  gap_some : gap.val ≠ []
  check_word : check.map asciiLower = checkWord
  apart_some : apart.val ≠ []
  in_word : inWord.map asciiLower = "in".toList
  labelled : items ≠ []
  plain : ∀ item ∈ items, ∀ c ∈ item.label, c ∉ [',', '(', ')', '\n']
  one_line : '\n' ∉ type ++ rest

namespace CheckLine

/-- What stands before the check word, without the blanks that the line starts with. -/
def front (line : CheckLine) : List Char :=
  line.wrapping.wrap line.name ++ (line.gap.val ++ line.type)

/-- The constraint, up to its last parenthesis. -/
def core (line : CheckLine) : List Char :=
  '(' :: (line.inside.val ++ (line.again.wrap line.name ++ (line.apart.val ++ (line.inWord ++
    (line.opening.val ++ '(' :: (listText line.items ++ ')' :: line.closing.val))))))

def text (line : CheckLine) : List Char :=
  line.lead.val ++
    (line.front ++ (line.check ++ (line.ahead.val ++ (line.core ++ ')' :: line.rest))))

def labels (line : CheckLine) : List String :=
  listLabels line.items

def Single (line : CheckLine) : Prop :=
  ∀ before after, WordBetween checkWord line.text before after →
    before = line.lead.val ++ line.front

end CheckLine

section
variable {line : CheckLine} {c : Char}

theorem isBlank_of_isNameQuote (mark : isNameQuote c = true) : isBlank c = false := by
  simp only [isNameQuote, Bool.or_eq_true, beq_iff_eq] at mark
  rcases mark with ((rfl | rfl) | rfl) | rfl <;> decide

theorem isNameQuote_of_isWordChar (word : isWordChar c = true) : isNameQuote c = false := by
  by_contra mark
  simp only [isNameQuote, Bool.or_eq_true, beq_iff_eq, Bool.not_eq_false] at mark
  rcases mark with ((rfl | rfl) | rfl) | rfl <;> exact absurd word (by decide)

theorem Wrapping.opening_marks (wrapping : Wrapping) :
    ∀ c ∈ wrapping.opening, isNameQuote c = true := by
  cases wrapping <;> simp [opening, isNameQuote]

theorem Wrapping.closing_marks (wrapping : Wrapping) :
    ∀ c ∈ wrapping.closing, isNameQuote c = true := by
  cases wrapping <;> simp [closing, isNameQuote]

/-- A wrapped name has word characters and marks only. -/
theorem mem_wrap {wrapping : Wrapping} {name : List Char} (word : ∀ c ∈ name, isWordChar c = true)
    (member : c ∈ wrapping.wrap name) : isWordChar c = true ∨ isNameQuote c = true := by
  simp only [Wrapping.wrap, List.mem_append] at member
  rcases member with opens | inside | closes
  · exact .inr (wrapping.opening_marks c opens)
  · exact .inl (word c inside)
  · exact .inr (wrapping.closing_marks c closes)

theorem wrap_ink {wrapping : Wrapping} {name : List Char} (word : ∀ c ∈ name, isWordChar c = true) :
    ∀ c ∈ wrapping.wrap name, isBlank c = false := fun _ member =>
  (mem_wrap word member).elim isBlank_of_isWordChar isBlank_of_isNameQuote

theorem newline_not_mem_wrap (wrapping : Wrapping) {name : List Char}
    (word : ∀ c ∈ name, isWordChar c = true) : '\n' ∉ wrapping.wrap name := fun member =>
  absurd (mem_wrap word member) (by decide)

theorem newline_not_mem_gap (gap : Gap) : '\n' ∉ gap.val := fun member =>
  absurd (gap.property _ member) (by decide)

theorem wrap_ne_nil {wrapping : Wrapping} {name : List Char} (named : name ≠ []) :
    wrapping.wrap name ≠ [] := by
  simp [Wrapping.wrap, named]

theorem unwrapName_wrap (wrapping : Wrapping) {name : List Char} (named : name ≠ [])
    (word : ∀ c ∈ name, isWordChar c = true) : unwrapName (wrapping.wrap name) = name :=
  unwrapName_append wrapping.opening_marks wrapping.closing_marks
    (fun c member => isNameQuote_of_isWordChar (word c member)) named

namespace CheckLine

theorem front_firstWord (line : CheckLine) :
    firstWord line.front = line.wrapping.wrap line.name := by
  obtain ⟨c, gap, same⟩ := List.exists_cons_of_ne_nil line.gap_some
  have blank := isBlank_of_isGap (line.gap.property c (same ▸ List.mem_cons_self))
  rw [front, same, List.cons_append]
  exact firstWord_append (wrap_ink line.word) (wrap_ne_nil line.named) blank _

theorem front_head? (line : CheckLine) (rest : List Char) :
    ∀ c ∈ (line.front ++ rest).head?, isBlank c = false := by
  intro c head
  rw [front, List.append_assoc, List.head?_append_of_ne_nil _ (wrap_ne_nil line.named)] at head
  exact wrap_ink line.word c (List.mem_of_mem_head? head)

/-- A trimmed line starts with the name, and keeps all up to the last parenthesis of its clause. -/
theorem trim_text (line : CheckLine) :
    Text.trim line.text = line.front ++ (line.check ++ (line.ahead.val ++
      (line.core ++ ')' :: Text.trimEnd line.rest))) := by
  have kept := Text.trimStart_blanks_append (fun c member => isBlank_of_isGap
    (line.lead.property c member)) (line.front_head? (line.check ++ (line.ahead.val ++
      (line.core ++ ')' :: line.rest))))
  have ended := Text.trimEnd_append_cons (c := ')') (by decide)
    (line.front ++ (line.check ++ (line.ahead.val ++ line.core))) line.rest
  rw [Text.trim, text, kept]
  simpa only [List.append_assoc] using ended

theorem splitCheck?_trim {line : CheckLine} (single : line.Single) :
    splitCheck? (Text.trim line.text) =
      some (line.front, line.ahead.val ++ (line.core ++ ')' :: Text.trimEnd line.rest)) := by
  obtain ⟨blanks, ended⟩ := Text.trimEnd_starts line.rest
  have whole : line.text = line.lead.val ++ (Text.trim line.text ++ blanks) := by
    rw [trim_text, text]
    simp [ended]
  have found : WordBetween checkWord (Text.trim line.text) line.front
      (line.ahead.val ++ (line.core ++ ')' :: Text.trimEnd line.rest)) :=
    ⟨line.check, line.check_word, line.trim_text⟩
  rw [Single, whole] at single
  exact splitCheck?_eq_some_iff.mpr (found.onlyBetween single)

/-- The constraint that is read: what follows the check word, without blanks around it and without
the comma that ends the line. -/
def constraint (line : CheckLine) : List Char :=
  line.core ++ ')' :: dropComma (Text.trimEnd (Text.trimEnd line.rest))

theorem dropComma_trim (line : CheckLine) :
    dropComma (Text.trim (line.ahead.val ++ (line.core ++ ')' :: Text.trimEnd line.rest))) =
      line.constraint := by
  have head : ∀ c ∈ (line.core ++ ')' :: Text.trimEnd line.rest).head?, isBlank c = false := by
    rintro c ⟨⟩
    decide
  rw [Text.trim, Text.trimStart_blanks_append (fun c member => isBlank_of_isGap
    (line.ahead.property c member)) head, Text.trimEnd_append_cons (by decide),
    dropComma_append (by decide), constraint]

theorem readCheckLine?_text {line : CheckLine} (single : line.Single) :
    readCheckLine? line.text =
      some (String.ofList line.name, String.ofList line.constraint) := by
  have name : unwrapName (firstWord line.front) = line.name := by
    rw [front_firstWord, unwrapName_wrap line.wrapping line.named line.word]
  rw [readCheckLine?, splitCheck?_trim single]
  simp only [name, dropComma_trim]
  cases same : line.name with
  | nil => exact absurd same line.named
  | cons c name => rfl

theorem afterIn?_constraint (line : CheckLine) : ∃ rest,
    afterIn? false line.constraint = some (listText line.items ++ ')' :: rest) := by
  obtain ⟨front, last, same⟩ := (List.eq_nil_or_concat line.apart.val).resolve_left line.apart_some
  rw [List.concat_eq_append] at same
  have gap : ∀ c ∈ front ++ [last], isGap c = true := same ▸ line.apart.property
  have closed : '(' ∉ line.inside.val ++ (line.again.wrap line.name ++ front) := by
    simp only [List.mem_append, not_or]
    refine ⟨fun member => ?_, fun member => ?_, fun member => ?_⟩
    · exact absurd (line.inside.property _ member) (by decide)
    · exact absurd (mem_wrap line.word member) (by decide)
    · exact absurd (gap _ (List.mem_append_left _ member)) (by decide)
  have found := afterIn?_append closed (isAsciiBlank_of_isGap (gap last (by simp))) line.in_word
    (fun c member => isAsciiBlank_of_isGap (line.opening.property c member)) false
    (listText line.items ++ ')' :: (line.closing.val ++
      ')' :: dropComma (Text.trimEnd (Text.trimEnd line.rest))))
  refine ⟨_, Eq.trans ?_ found⟩
  have whole : line.constraint = '(' :: (line.inside.val ++ (line.again.wrap line.name ++ front) ++
      last :: (line.inWord ++ (line.opening.val ++ '(' :: (listText line.items ++ ')' ::
        (line.closing.val ++ ')' :: dropComma (Text.trimEnd (Text.trimEnd line.rest))))))) := by
    simp [constraint, core, same]
  rw [whole, afterIn?_cons_of_none false rfl]
  rfl

theorem labelsOfCheck_constraint (line : CheckLine) :
    labelsOfCheck (String.ofList line.constraint) = line.labels := by
  obtain ⟨rest, found⟩ := line.afterIn?_constraint
  rw [← @String.toList_ofList line.constraint] at found
  refine labelsOfCheck_of_list (fun c => isBlank_of_isGap) line.labelled (fun item member => ?_)
    found
  have plain := line.plain item member
  exact ⟨fun inside => plain _ inside (by simp), fun inside => plain _ inside (by simp),
    fun inside => plain _ inside (by simp)⟩

theorem newline_not_mem_text (line : CheckLine) : '\n' ∉ line.text := by
  have list : '\n' ∉ listText line.items := by
    refine not_mem_listText (by decide) fun item member => ?_
    exact QuotedLabel.not_mem_text (by decide) (by decide) fun inside =>
      line.plain item member _ inside (by simp)
  have check : '\n' ∉ line.check := Text.not_mem_of_lowered line.check_word (by decide)
  have inWord : '\n' ∉ line.inWord := Text.not_mem_of_lowered line.in_word (by decide)
  have ends := line.one_line
  rw [List.mem_append, not_or] at ends
  simp [text, front, core, newline_not_mem_gap, newline_not_mem_wrap _ line.word, check, inWord,
    list, ends]

end CheckLine
end

end SqlMigrations.Catalog
