import Mathlib.Algebra.Ring.Nat
import SqlMigrations.Config.DurationText
import SqlMigrations.Proofs.Text.Decimal
import SqlMigrations.Proofs.Text.Trim

namespace SqlMigrations

/-- A span of exactly so many nanoseconds, of which less than a second is left beside the whole
seconds. -/
structure Duration.Lasts (duration : Duration) (nanoseconds : Nat) : Prop where
  below : duration.nanos < 1000000000
  total : duration.toNanos = nanoseconds

theorem Duration.Lasts.unique {first second : Duration} {nanoseconds : Nat}
    (left : first.Lasts nanoseconds) (right : second.Lasts nanoseconds) : first = second := by
  obtain ⟨seconds, nanos⟩ := first
  obtain ⟨otherSeconds, otherNanos⟩ := second
  have total := left.total.trans right.total.symm
  have below := left.below
  have otherBelow := right.below
  simp only [Duration.toNanos] at total below otherBelow
  rw [Duration.mk.injEq]
  omega

theorem Duration.exists_lasts (nanoseconds : Nat) :
    ∃ duration : Duration, duration.Lasts nanoseconds := by
  refine ⟨⟨nanoseconds / 1000000000, nanoseconds % 1000000000⟩, ?_, ?_⟩
  · exact Nat.mod_lt _ (Nat.zero_lt_succ 999999999)
  · simp only [toNanos]
    omega

theorem Duration.ofSeconds_lasts (seconds : Nat) :
    (ofSeconds seconds).Lasts (seconds * 1000000000) where
  below := Nat.zero_lt_succ 999999999
  total := Nat.add_zero (seconds * 1000000000)

theorem Duration.ofMillis_lasts (millis : Nat) : (ofMillis millis).Lasts (millis * 1000000) where
  below := by
    simp only [ofMillis]
    omega
  total := by
    simp only [toNanos, ofMillis]
    omega

namespace Config

open Text (isBlank isDigit)

variable {unit : TimeUnit} {duration : Duration}

namespace TimeUnit

def words : TimeUnit → List String
  | .millisecond => ["ms"]
  | .second => ["s", ""]
  | .minute => ["m"]
  | .hour => ["h"]

/-- The number of seconds in a minute or an hour, by which an amount is multiplied. -/
def factor : TimeUnit → Nat
  | .millisecond | .second => 1
  | .minute => 60
  | .hour => 3600

def nanoseconds : TimeUnit → Nat
  | .millisecond => 1000000
  | .second => 1000000000
  | .minute => 60 * 1000000000
  | .hour => 3600 * 1000000000

theorem ofName?_eq_some_iff {name : String} : ofName? name = some unit ↔ name ∈ unit.words := by
  constructor
  · intro found
    unfold ofName? at found
    split at found
    all_goals cases found
    all_goals simp [words]
  · intro named
    cases unit
    all_goals
      simp only [words, List.mem_cons, List.not_mem_nil, or_false] at named
    case second => rcases named with rfl | rfl <;> rfl
    all_goals subst named; rfl

/-- A unit counts in whole seconds, or the amount itself stays below the bound of seconds. -/
theorem duration?_eq_some_iff {amount : Nat} (fits : amount ≤ Duration.maxSeconds) :
    unit.duration? amount = some duration ↔
      unit.factor * amount ≤ Duration.maxSeconds ∧ duration.Lasts (amount * unit.nanoseconds) := by
  have exactly {span : Duration} (lasts : span.Lasts (amount * unit.nanoseconds)) :
      span = duration ↔ duration.Lasts (amount * unit.nanoseconds) :=
    ⟨fun same => same ▸ lasts, lasts.unique⟩
  have inRange (factor : Nat) (whole : amount * unit.nanoseconds = factor * amount * 1000000000) :
      secondsInRange? (factor * amount) = some duration ↔
        factor * amount ≤ Duration.maxSeconds ∧
          duration.Lasts (amount * unit.nanoseconds) := by
    rw [secondsInRange?, Option.ite_none_right_eq_some, Option.some.injEq,
      exactly (whole ▸ Duration.ofSeconds_lasts (factor * amount))]
  cases unit with
  | millisecond =>
    rw [duration?, Option.some.injEq, exactly (Duration.ofMillis_lasts amount), factor, Nat.one_mul,
      and_iff_right fits]
  | second =>
    have once := inRange 1 (by rw [Nat.one_mul, nanoseconds])
    rw [Nat.one_mul] at once
    rw [duration?, factor, Nat.one_mul, once]
  | minute =>
    exact inRange 60 (by simp only [nanoseconds]; omega)
  | hour =>
    exact inRange 3600 (by simp only [nanoseconds]; omega)

end TimeUnit

/-- The parts of a written duration: digits, blanks, and a word for the unit, which may be empty. -/
structure WrittenDuration where
  digits : List Char
  gap : List Char
  unit : TimeUnit
  word : String
  nonempty : digits ≠ []
  decimal : ∀ c ∈ digits, isDigit c = true
  blank : ∀ c ∈ gap, isBlank c = true
  named : word ∈ unit.words

namespace WrittenDuration

def text (written : WrittenDuration) : List Char :=
  written.digits ++ (written.gap ++ written.word.toList)

def amount (written : WrittenDuration) : Nat :=
  Nat.ofDigitChars 10 written.digits 0

/-- Whether neither the number nor the seconds that it stands for pass 64 bits. -/
structure InRange (written : WrittenDuration) : Prop where
  amount : written.amount ≤ 2 ^ 64 - 1
  seconds : written.unit.factor * written.amount ≤ 2 ^ 64 - 1

def nanoseconds (written : WrittenDuration) : Nat :=
  written.amount * written.unit.nanoseconds

end WrittenDuration

theorem isDigit_of_isBlank {c : Char} (blank : isBlank c = true) : isDigit c = false := by
  by_contra digit
  have bounds := Text.isDigit_iff.mp (by simpa using digit)
  simp only [isBlank, Text.isAsciiBlank, Bool.or_eq_true, Bool.and_eq_true, decide_eq_true_eq,
    beq_iff_eq] at blank
  omega

/-- The words for units hold letters alone. -/
theorem letter_of_words {word : String} (named : word ∈ unit.words) {c : Char}
    (member : c ∈ word.toList) : isBlank c = false ∧ isDigit c = false := by
  have letters : ∀ word ∈ unit.words,
      word.toList.all (fun c => !isBlank c && !isDigit c) = true := by
    cases unit <;> decide
  simpa using List.all_eq_true.mp (letters word named) c member

/-- A text is read part by part: its digits as a number, the rest as a word for a unit. -/
theorem readDuration_eq_ok_iff {written : String} :
    readDuration written = .ok duration ↔ ∃ amount unit,
      Text.readUnsigned Duration.maxSeconds ((Text.trim written.toList).takeWhile isDigit) =
        .ok amount ∧
      String.ofList (Text.trim ((Text.trim written.toList).dropWhile isDigit)) ∈
        TimeUnit.words unit ∧
      unit.duration? amount = some duration := by
  simp only [readDuration]
  cases number : Text.readUnsigned Duration.maxSeconds
      ((Text.trim written.toList).takeWhile isDigit) with
  | error problem => simp
  | ok amount =>
    dsimp only [readUnit]
    generalize String.ofList (Text.trim ((Text.trim written.toList).dropWhile isDigit)) = word
    cases named : TimeUnit.ofName? word with
    | none => simp [← TimeUnit.ofName?_eq_some_iff, named]
    | some unit =>
      cases length : unit.duration? amount <;>
        simp [← TimeUnit.ofName?_eq_some_iff, named, length]

theorem readDuration_cases (written : String) : (∃ duration, readDuration written = .ok duration) ∨
    ∃ problem, readDuration written = .error (.config problem) := by
  simp only [readDuration, readUnit]
  split
  · exact .inr ⟨_, rfl⟩
  · split
    · exact .inr ⟨_, rfl⟩
    · split
      · exact .inl ⟨_, rfl⟩
      · exact .inr ⟨_, rfl⟩

/-- The digits end where the gap or the word for the unit begins. -/
theorem WrittenDuration.cut (parts : WrittenDuration) :
    parts.text.takeWhile isDigit = parts.digits ∧
      parts.text.dropWhile isDigit = parts.gap ++ parts.word.toList := by
  have stops : ∀ c ∈ parts.gap ++ parts.word.toList, isDigit c = false := by
    intro c member
    rcases List.mem_append.mp member with inGap | inWord
    · exact isDigit_of_isBlank (parts.blank c inGap)
    · exact (letter_of_words parts.named inWord).2
  rw [text, List.takeWhile_append_of_pos parts.decimal, List.dropWhile_append_of_pos parts.decimal]
  cases rest : parts.gap ++ parts.word.toList with
  | nil => simp
  | cons c rest =>
    have stop : ¬ isDigit c = true := by simp [stops c (rest ▸ List.mem_cons_self)]
    rw [List.takeWhile_cons_of_neg stop, List.dropWhile_cons_of_neg stop, List.append_nil]
    exact ⟨rfl, rfl⟩

theorem WrittenDuration.trim_behind (parts : WrittenDuration) :
    Text.trim (parts.gap ++ parts.word.toList) = parts.word.toList := by
  have bare : Text.IsBare parts.word.toList :=
    ⟨fun c head => (letter_of_words parts.named (List.mem_of_mem_head? head)).1,
      fun c last => (letter_of_words parts.named (List.mem_of_getLast? last)).1⟩
  rw [Text.trim_blanks_append parts.blank, bare.trim_eq]

theorem readDuration_of_parts {written : String} {parts : WrittenDuration}
    (shape : Text.trim written.toList = parts.text) (inRange : parts.InRange)
    (lasts : duration.Lasts parts.nanoseconds) : readDuration written = .ok duration := by
  rw [readDuration_eq_ok_iff, shape, parts.cut.1, parts.cut.2, parts.trim_behind,
    String.ofList_toList]
  refine ⟨parts.amount, parts.unit, ?_, parts.named, ?_⟩
  · exact (Text.readUnsigned_eq_ok_iff parts.decimal).mpr ⟨parts.nonempty, rfl, inRange.amount⟩
  · exact (TimeUnit.duration?_eq_some_iff inRange.amount).mpr ⟨inRange.seconds, lasts⟩

theorem exists_parts {written : String} (read : readDuration written = .ok duration) :
    ∃ parts : WrittenDuration, Text.trim written.toList = parts.text ∧ parts.InRange ∧
      duration.Lasts parts.nanoseconds := by
  obtain ⟨amount, unit, number, named, length⟩ := readDuration_eq_ok_iff.mp read
  have decimal : ∀ c ∈ (Text.trim written.toList).takeWhile isDigit, isDigit c = true :=
    fun c member => List.mem_takeWhile_imp member
  obtain ⟨nonempty, rfl, fits⟩ := (Text.readUnsigned_eq_ok_iff decimal).mp number
  obtain ⟨seconds, lasts⟩ := (TimeUnit.duration?_eq_some_iff fits).mp length
  have whole := List.takeWhile_append_dropWhile (p := isDigit) (l := Text.trim written.toList)
  have ends : ∀ c ∈ ((Text.trim written.toList).dropWhile isDigit).getLast?, isBlank c = false := by
    intro c last
    apply (Text.trim_isBare written.toList).last c
    rw [← whole, List.getLast?_append, Option.mem_def.mp last]
    rfl
  obtain ⟨gap, behind, blank⟩ := Text.exists_trim_of_last ends
  refine ⟨⟨_, gap, unit, _, nonempty, decimal, blank, named⟩, ?_, ⟨fits, seconds⟩, lasts⟩
  rw [WrittenDuration.text, String.toList_ofList, ← behind, whole]

/-- A text is read as a duration exactly when, without the blanks around it, it is a whole number
and a word for a unit, in range; what is read lasts just as long as what is written. -/
theorem durations_read_exactly (written : String) :
    (∀ duration, readDuration written = .ok duration ↔
      ∃ parts : WrittenDuration, Text.trim written.toList = parts.text ∧ parts.InRange ∧
        duration.Lasts parts.nanoseconds) ∧
    ((¬ ∃ parts : WrittenDuration, Text.trim written.toList = parts.text ∧ parts.InRange) ↔
      ∃ problem, readDuration written = .error (.config problem)) := by
  refine ⟨fun duration => ⟨exists_parts, ?_⟩, ?_, ?_⟩
  · rintro ⟨parts, shape, inRange, lasts⟩
    exact readDuration_of_parts shape inRange lasts
  · intro none
    rcases readDuration_cases written with ⟨duration, read⟩ | failed
    · obtain ⟨parts, shape, inRange, -⟩ := exists_parts read
      exact absurd ⟨parts, shape, inRange⟩ none
    · exact failed
  · rintro ⟨problem, failed⟩ ⟨parts, shape, inRange⟩
    obtain ⟨duration, lasts⟩ := Duration.exists_lasts parts.nanoseconds
    rw [readDuration_of_parts shape inRange lasts] at failed
    contradiction

example : readDuration " 90 m\n" = .ok (.ofSeconds 5400) := by
  cbv

end Config

end SqlMigrations
