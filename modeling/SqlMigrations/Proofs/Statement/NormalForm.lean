import SqlMigrations.Proofs.Statement.Appending
import SqlMigrations.Proofs.Statement.Filling
import SqlMigrations.Text.Number

namespace SqlMigrations.Statement

open Text (IsBare)

variable {supply : Supply} {next after : Nat} {text filled : List Char}
  {texts : List (List Char)}

/-- Whether an identifier is written in the usual five groups of hexadecimal digits. -/
structure IsUuid (id : List Char) : Prop where
  groups : (id.splitOn '-').map List.length = [8, 4, 4, 4, 12]
  digits : id.all (fun c => c == '-' || (Text.hexDigitValue? (Text.asciiLower c)).isSome) = true

def NoEnd (text : List Char) : Prop :=
  ∀ filler, (∀ c ∈ filler, isLineFiller c = true) → ¬ ';' :: (filler ++ ['\n']) <:+: text

/-- What every statement is like. -/
structure IsNormal (statement : List Char) : Prop where
  nonempty : statement ≠ []
  bare : IsBare statement
  uncommented : ¬ HasDashes statement
  unended : NoEnd statement
  uncalled : NoCall statement

def fileOf (statements : List String) : String :=
  String.join (statements.map (· ++ ";\n"))

theorem NoEnd.within (unended : NoEnd text) {part : List Char} (inside : part <:+: text) :
    NoEnd part :=
  fun filler fills found => unended filler fills (found.trans inside)

theorem noEnd_of_mem_splitEnds {part : List Char} (member : part ∈ splitEnds text) :
    NoEnd part := by
  induction text generalizing part with
  | nil =>
    obtain rfl := List.mem_singleton.mp member
    intro filler _ inside
    cases List.infix_nil.mp inside
  | cons c text induction =>
    rw [splitEnds_cons] at member
    split at member
    · rcases List.mem_cons.mp member with rfl | later
      · intro filler _ inside
        cases List.infix_nil.mp inside
      · exact induction later
    · rename_i endsNothing
      obtain ⟨first, others, parts, front, _⟩ := splitEnds_within text
      rw [parts, List.modifyHead_cons] at member
      rw [parts] at induction
      rcases List.mem_cons.mp member with rfl | later
      · intro filler fills inside
        rcases List.infix_cons_iff.mp inside with start | later
        · -- the rest would go on with the filler and the line break, and the semicolon end the part
          obtain ⟨rfl, ahead⟩ := List.cons_prefix_cons.mp start
          obtain ⟨tail, rfl⟩ := ahead.trans front
          rw [List.append_assoc] at endsNothing
          exact endsNothing ⟨rfl, closesLine_of_ends (by simp) fills⟩
        · exact induction List.mem_cons_self filler fills later
      · exact induction (List.mem_cons_of_mem first later)

theorem noEnd_of_mem_pieces {contents piece : List Char} (member : piece ∈ pieces contents) :
    NoEnd piece := by
  obtain ⟨part, among, rfl⟩ := List.mem_map.mp (List.mem_filter.mp member).1
  exact (noEnd_of_mem_splitEnds among).within (trim_within part)

theorem not_hasDashes_of_mem_pieces {contents piece : List Char}
    (member : piece ∈ pieces contents) : ¬ HasDashes piece := fun inside =>
  dropCommentsFrom_not_hasDashes (List.forall_mem_nil _)
    (inside.trans (infix_of_mem_pieces member))

theorem isBare_of_mem_pieces {contents piece : List Char} (member : piece ∈ pieces contents) :
    IsBare piece := by
  obtain ⟨part, _, rfl⟩ := List.mem_map.mp (List.mem_filter.mp member).1
  exact Text.trim_isBare part

theorem ne_nil_of_mem_pieces {contents piece : List Char} (member : piece ∈ pieces contents) :
    piece ≠ [] := by
  simpa using (List.mem_filter.mp member).2

theorem IsUuid.lower_ne {id : List Char} (uuid : IsUuid id) {c : Char} (member : c ∈ id) :
    Text.asciiLower c ≠ ';' ∧ Text.asciiLower c ≠ '(' := by
  have allowed := List.all_eq_true.mp uuid.digits c member
  rw [Bool.or_eq_true, beq_iff_eq] at allowed
  rcases allowed with rfl | digit
  · decide
  · constructor <;> intro same <;> rw [same] at digit <;> contradiction

theorem IsUuid.not_hasDashes {id : List Char} (uuid : IsUuid id) : ¬ HasDashes id := by
  rintro ⟨before, after, rfl⟩
  have parted : (before ++ ['-', '-'] ++ after).splitOn '-' =
      before.splitOn '-' ++ [] :: after.splitOn '-' := by
    rw [List.append_assoc, List.splitOn, List.splitOn, List.splitOn]
    exact (List.splitOnP_append_cons before _ rfl).trans
      (congrArg _ (List.splitOnP_append_cons [] after rfl))
  have groups := uuid.groups
  rw [parted, List.map_append] at groups
  have empty : 0 ∈ [8, 4, 4, 4, 12] := groups ▸ by simp
  contradiction

/-- What stands in a filled text without a quote stands in the text or in an identifier. -/
theorem Filled.infix_of_unquoted (filling : Filled supply next text filled after)
    {word : List Char} (unquoted : '\'' ∉ word) (inside : word <:+: filled) :
    word <:+: text ∨ ∃ number, word <:+: supply number := by
  induction filling with
  | done none => exact .inl inside
  | @call next _ before call rest filled isCall leftmost _ induction =>
    rw [List.append_assoc, List.cons_append, Text.infix_around unquoted,
      Text.infix_around unquoted] at inside
    rcases inside with front | id | back
    · exact .inl (front.trans ⟨[], call ++ rest, by simp⟩)
    · exact .inr ⟨next, id⟩
    · exact (induction back).imp_left fun later =>
        later.trans (List.suffix_append (before ++ call) rest).isInfix

theorem IsCall.exists_mem {call : List Char} (isCall : IsCall call) {c : Char}
    (member : c ∈ "uuid()".toList) : ∃ d ∈ call, Text.asciiLower d = c :=
  List.mem_map.mp (isCall ▸ member)

theorem IsCall.unquoted {call : List Char} (isCall : IsCall call) : '\'' ∉ call :=
  not_mem_call isCall (by decide)

/-- Every call is replaced, and none arises around an identifier, which quotes part from the
text. -/
theorem Filled.noCall (filling : Filled supply next text filled after)
    (uuids : ∀ number, IsUuid (supply number)) : NoCall filled := by
  induction filling with
  | done none => exact none
  | @call next _ before call rest filled isCall leftmost _ induction =>
    intro found isFound inside
    rw [List.append_assoc, List.cons_append, Text.infix_around isFound.unquoted,
      Text.infix_around isFound.unquoted] at inside
    rcases inside with front | id | back
    · exact leftmost found isFound (front.trans (List.prefix_append before _).isInfix)
    · obtain ⟨c, member, lowered⟩ := @IsCall.exists_mem found isFound '(' (by decide)
      exact ((uuids next).lower_ne (id.subset member)).2 lowered
    · exact induction found isFound back

theorem Filled.not_hasDashes (filling : Filled supply next text filled after)
    (uuids : ∀ number, IsUuid (supply number)) (plain : ¬ HasDashes text) : ¬ HasDashes filled := by
  intro inside
  rcases filling.infix_of_unquoted (by decide) inside with there | ⟨number, there⟩
  · exact plain there
  · exact (uuids number).not_hasDashes there

theorem Filled.noEnd (filling : Filled supply next text filled after)
    (uuids : ∀ number, IsUuid (supply number)) (unended : NoEnd text) : NoEnd filled := by
  intro filler fills inside
  have unquoted : '\'' ∉ ';' :: (filler ++ ['\n']) := by
    have visible : '\'' ∉ filler := fun member => by
      have impossible := fills '\'' member
      contradiction
    simp [visible]
  rcases filling.infix_of_unquoted unquoted inside with there | ⟨number, there⟩
  · exact unended filler fills there
  · exact ((uuids number).lower_ne (there.subset List.mem_cons_self)).1 (by decide)

theorem Filled.head? (filling : Filled supply next text filled after) {c : Char}
    (first : c ∈ filled.head?) : c ∈ text.head? ∨ c = '\'' := by
  cases filling with
  | done none => exact .inl first
  | @call _ _ before call rest filled isCall leftmost _ =>
    cases before with
    | nil => exact .inr (Option.some.inj first).symm
    | cons d before => exact .inl first

theorem Filled.getLast? (filling : Filled supply next text filled after) {c : Char}
    (last : c ∈ filled.getLast?) : c ∈ text.getLast? ∨ c = '\'' := by
  induction filling with
  | done none => exact .inl last
  | @call next _ before call rest filled isCall leftmost _ induction =>
    rw [List.getLast?_append, List.getLast?_cons, Option.some_or, Option.mem_some] at last
    cases ended : filled.getLast? with
    | none => exact .inr (by simpa [ended] using last.symm)
    | some d =>
      rw [ended, Option.getD_some] at last
      refine (induction (by rw [ended, last]; rfl)).imp_left fun there => ?_
      rw [List.getLast?_append, Option.mem_def.mp there]
      rfl

theorem Filled.isBare (filling : Filled supply next text filled after) (bare : IsBare text) :
    IsBare filled where
  first c head := by
    rcases filling.head? head with there | rfl
    · exact bare.first c there
    · rfl
  last c last := by
    rcases filling.getLast? last with there | rfl
    · exact bare.last c there
    · rfl

theorem Filled.ne_nil (filling : Filled supply next text filled after) (nonempty : text ≠ []) :
    filled ≠ [] := by
  cases filling with
  | done none => exact nonempty
  | call isCall leftmost below => simp

theorem FilledAll.exists_filled {statements : List String}
    (fillings : FilledAll supply next texts statements after) {statement : String}
    (member : statement ∈ statements) :
    ∃ text ∈ texts, ∃ first last, Filled supply first text statement.toList last := by
  induction fillings with
  | nil => cases member
  | cons filling _ induction =>
    rcases List.mem_cons.mp member with rfl | later
    · exact ⟨_, List.mem_cons_self, _, _, filling⟩
    · obtain ⟨text, inside, filled⟩ := induction later
      exact ⟨text, List.mem_cons_of_mem _ inside, filled⟩

theorem split_isNormal (uuids : ∀ number, IsUuid (supply number)) (next : Nat) {contents : String}
    {statement : String} (member : statement ∈ (split supply next contents).1) :
    IsNormal statement.toList := by
  obtain ⟨piece, inside, _, _, filling⟩ :=
    (expandAll_filled supply next (pieces contents.toList)).exists_filled member
  exact
    { nonempty := filling.ne_nil (ne_nil_of_mem_pieces inside)
      bare := filling.isBare (isBare_of_mem_pieces inside)
      uncommented := filling.not_hasDashes uuids (not_hasDashes_of_mem_pieces inside)
      unended := filling.noEnd uuids (noEnd_of_mem_pieces inside)
      uncalled := filling.noCall uuids }

/-- The statements of a file as characters, each ended. -/
def ended (texts : List (List Char)) : List Char :=
  texts.flatMap (· ++ [';', '\n'])

theorem ended_cons (text : List Char) (texts : List (List Char)) :
    ended (text :: texts) = text ++ ';' :: '\n' :: ended texts := by
  simp [ended]

theorem fileOf_toList (statements : List String) :
    (fileOf statements).toList = ended (statements.map String.toList) := by
  rw [fileOf, String.toList_join, List.flatMap_map, ended, List.flatMap_map]
  exact congrArg (List.flatMap · statements) (funext fun statement => String.toList_append)

theorem not_hasDashes_ended (plain : ∀ text ∈ texts, ¬ HasDashes text) :
    ¬ HasDashes (ended texts) := by
  induction texts with
  | nil => decide
  | cons text texts induction =>
    obtain ⟨first, others⟩ := List.forall_mem_cons.mp plain
    rw [ended_cons, HasDashes, Text.infix_around (by decide), not_or]
    have later : ¬ HasDashes (['\n'] ++ ended texts) := by
      rw [hasDashes_append (by decide)]
      exact induction others
    exact ⟨first, later⟩

/-- A semicolon that closes no line of a statement closes none where another one follows. -/
theorem not_closesLine_of_noEnd (unended : NoEnd (';' :: text)) (rest : List Char) :
    closesLine (text ++ ';' :: rest) = false := by
  have stays : ∀ filler, (∀ c ∈ filler, isLineFiller c = true) → ¬ filler ++ ['\n'] <+: text :=
    fun filler fills front =>
      unended filler fills (List.cons_prefix_cons.mpr ⟨rfl, front⟩).isInfix
  clear unended
  induction text with
  | nil => rfl
  | cons c text induction =>
    rw [List.cons_append, closesLine_cons]
    split
    · rename_i fillsHere
      refine induction fun filler fills front => ?_
      exact stays (c :: filler) (List.forall_mem_cons.mpr ⟨fillsHere, fills⟩)
        (List.cons_prefix_cons.mpr ⟨rfl, front⟩)
    · refine beq_eq_false_iff_ne.mpr ?_
      rintro rfl
      exact stays [] (List.forall_mem_nil _) (List.cons_prefix_cons.mpr ⟨rfl, List.nil_prefix⟩)

theorem splitEnds_ended (unended : NoEnd text) (rest : List Char) :
    splitEnds (text ++ ';' :: '\n' :: rest) = text :: splitEnds ('\n' :: rest) := by
  have quiet : ∀ before after, text = before ++ ';' :: after →
      closesLine (after ++ ';' :: '\n' :: rest) = false := by
    rintro before after rfl
    exact not_closesLine_of_noEnd (unended.within (List.suffix_append before _).isInfix) _
  have closes : ';' = ';' ∧ closesLine ('\n' :: rest) = true := ⟨rfl, rfl⟩
  rw [splitEnds_append quiet, splitEnds_cons, if_pos closes, List.modifyHead_cons, List.append_nil]

theorem IsNormal.visibleParts_cons (normal : IsNormal text) (parts : List (List Char)) :
    visibleParts (text :: parts) = text :: visibleParts parts := by
  simp [visibleParts, normal.bare.trim_eq, normal.nonempty]

theorem pieces_ended (normal : ∀ text ∈ texts, IsNormal text) : pieces (ended texts) = texts := by
  have plain := not_hasDashes_ended fun text member => (normal text member).uncommented
  rw [pieces_eq_visibleParts, dropComments, dropCommentsFrom_of_not_hasDashes plain,
    List.reverse_nil, List.nil_append]
  clear plain
  induction texts with
  | nil => rfl
  | cons text texts induction =>
    obtain ⟨first, others⟩ := List.forall_mem_cons.mp normal
    have nextLine : visibleParts (splitEnds ('\n' :: ended texts)) =
        visibleParts (splitEnds (ended texts)) :=
      visibleParts_blanks (List.forall_mem_singleton.mpr rfl) (ended texts)
    rw [ended_cons, splitEnds_ended first.unended, first.visibleParts_cons, nextLine,
      induction others]

theorem hasCall_eq_false_of_noCall (uncalled : NoCall text) : hasCall text = false := by
  rw [← Bool.not_eq_true, hasCall_iff]
  rintro ⟨call, lowered, inside⟩
  exact uncalled call lowered inside

theorem split_fileOf (supply : Supply) (next : Nat) {statements : List String}
    (normal : ∀ statement ∈ statements, IsNormal statement.toList) :
    split supply next (fileOf statements) = (statements, next) := by
  have normalTexts : ∀ text ∈ statements.map String.toList, IsNormal text :=
    List.forall_mem_map.mpr normal
  have uncalled : ∀ text ∈ statements.map String.toList, hasCall text = false :=
    fun text member => hasCall_eq_false_of_noCall (normalTexts text member).uncalled
  have back : (statements.map String.toList).map String.ofList = statements := by
    simp [Function.comp_def]
  rw [split, fileOf_toList, pieces_ended normalTexts, expandAll_of_no_call supply next uncalled,
    back]

/-- Statements are in normal form, and a file of them is split into the same statements again, which
draws no identifier. -/
theorem split_normalizes (supply : Supply) (uuids : ∀ number, IsUuid (supply number)) (next : Nat)
    (contents : String) :
    (∀ statement ∈ (split supply next contents).1, IsNormal statement.toList) ∧
      ∀ other start, split other start (fileOf (split supply next contents).1) =
        ((split supply next contents).1, start) :=
  ⟨fun _ => split_isNormal uuids next, fun other start =>
    split_fileOf other start fun _ => split_isNormal uuids next⟩

/-- A file with doubled semicolons, once with blanks between them. -/
def doubledFile : String :=
  "INSERT INTO t VALUES (uuid()); ;\nSELECT 2 - - 1;; -- twice\nSELECT 3"

theorem doubledFile_normalizes :
    let supply : Supply := fun _ => "9f3c2e10-7b1d-4c8e-a5f0-0123456789aB".toList
    let statements :=
      ["INSERT INTO t VALUES ('9f3c2e10-7b1d-4c8e-a5f0-0123456789aB');", "SELECT 2 - - 1;",
        "SELECT 3"]
    (∀ number, IsUuid (supply number)) ∧ split supply 5 doubledFile = (statements, 6) ∧
      (∀ statement ∈ statements, IsNormal statement.toList) ∧
      split (fun _ => []) 0 (fileOf statements) = (statements, 0) := by
  intro supply statements
  have uuids : ∀ number, IsUuid (supply number) :=
    fun _ => ⟨by decide +kernel, by decide +kernel⟩
  have found : split supply 5 doubledFile = (statements, 6) := by decide +kernel
  obtain ⟨normal, again⟩ := split_normalizes supply uuids 5 doubledFile
  rw [found] at normal again
  exact ⟨uuids, found, normal, again _ 0⟩

end SqlMigrations.Statement
