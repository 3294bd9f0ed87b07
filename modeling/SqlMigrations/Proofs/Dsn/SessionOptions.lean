import SqlMigrations.Dsn.Clean
import SqlMigrations.Dsn.MySql
import SqlMigrations.Proofs.Text.FormUrl

/-!
What cleaning does to the parameters of a MySQL connection string. It works on the text: an option
is appended unless its key and an equals sign stand anywhere in the string, and the first `?&` is
collapsed wherever it stands. Read again, the string has the same user, password, address and
database; its parameters are the given ones and the missing options exactly when the text mentions
the keys that are set and the collapsing joins no two parameters.
-/

namespace SqlMigrations.Dsn

open Text
open Text.FormUrl (decode decode_ampersand decode_append_ampersand cutQuery cutQuery_append
  cutQuery_of_not_mem)

variable {dsn head query : List Char} {params : List (String × String)}

/-- The session options of MySQL by key and value, in the order in which they are appended. -/
def sessionOptions : List (String × String) :=
  [("collation", "utf8mb4_general_ci"), ("parseTime", "true"), ("loc", "Local")]

def optionText (option : String × String) : List Char :=
  '&' :: option.1.toList ++ '=' :: option.2.toList

def defaultOf (option : String × String) : DefaultOption :=
  ⟨option.1 ++ "=", String.ofList (optionText option)⟩

/-- Whether a key and an equals sign stand anywhere in a text. -/
def Mentions (dsn : List Char) (key : String) : Prop :=
  key.toList ++ ['='] <:+: dsn

instance (dsn : List Char) (key : String) : Decidable (Mentions dsn key) :=
  decidable_of_iff (Text.occursIn (key.toList ++ ['=']) dsn = true) Text.occursIn_iff_infix

def unmentioned (dsn : List Char) : List (String × String) :=
  sessionOptions.filter fun option => ¬ Mentions dsn option.1

def unset (params : List (String × String)) : List (String × String) :=
  sessionOptions.filter fun option => option.1 ∉ params.map Prod.fst

/-- The query of a connection string with the options appended that it does not mention. -/
def extendedQuery (dsn : List Char) : List Char :=
  (cutQuery dsn).2 ++ (unmentioned dsn).flatMap optionText

/-- Whether a parameter follows the first `?&` inside a query, which collapsing joins to the one
before. -/
def JoinsParams (query : List Char) : Prop :=
  query.head? ≠ some '&' ∧ ∃ before next after,
    query = before ++ '?' :: '&' :: next :: after ∧ next ≠ '&' ∧ ¬ ['?', '&'] <:+: before ++ ['?']

theorem joinsParams_iff : JoinsParams query ↔ query.head? ≠ some '&' ∧
    (Text.splitOnce? ['?', '&'] query).any (fun parts => parts.2.head?.any (· != '&')) = true := by
  rw [JoinsParams, Option.any_eq_true]
  refine and_congr_right fun _ => ⟨?_, ?_⟩
  · rintro ⟨before, next, after, whole, plain, first⟩
    refine ⟨(before, next :: after), (Text.splitOnce?_eq_some_iff (by simp)).mpr ⟨?_, first⟩, ?_⟩
    · simp [whole]
    · simp [plain]
  · rintro ⟨⟨before, after⟩, found, plain⟩
    obtain ⟨whole, first⟩ := (Text.splitOnce?_eq_some_iff (by simp)).mp found
    cases after with
    | nil => cases plain
    | cons next after => exact ⟨before, next, after, by simp [whole], by simpa using plain, first⟩

instance (query : List Char) : Decidable (JoinsParams query) :=
  decidable_of_iff _ joinsParams_iff.symm

theorem mysqlDefaults_eq : mysqlDefaults = sessionOptions.map defaultOf := by
  decide

theorem mentions_optionText {key : String} (plain : '&' ∉ key.toList ++ ['='])
    (option : String × String) :
    Mentions (dsn ++ optionText option) key ↔
      Mentions dsn key ∨ Mentions (optionText option) key := by
  have alone := @Text.infix_around _ [] _ (option.1.toList ++ '=' :: option.2.toList) plain
  rw [List.nil_append, List.infix_nil] at alone
  have whole : optionText option = '&' :: (option.1.toList ++ '=' :: option.2.toList) := rfl
  simp [Mentions, whole, alone, Text.infix_around plain]

theorem addDefault_eq (dsn : List Char) (option : String × String) :
    addDefault dsn (defaultOf option) =
      if Mentions dsn option.1 then dsn else dsn ++ optionText option := by
  have same : Text.occursIn (option.1 ++ "=").toList dsn = true ↔ Mentions dsn option.1 := by
    rw [Text.occursIn_iff_infix, Mentions, String.toList_append]
    rfl
  simp only [addDefault, defaultOf, same, String.toList_ofList]

theorem filter_mentions {options : List (String × String)} {other : List Char}
    (same : ∀ option ∈ options, (Mentions dsn option.1 ↔ Mentions other option.1)) :
    (options.filter fun option => ¬ Mentions dsn option.1) =
      options.filter fun option => ¬ Mentions other option.1 :=
  List.filter_congr fun option member => by simp [same option member]

/-- No option mentions the key of a later one, so each is appended as if it were the only one. -/
theorem foldl_addDefault {options : List (String × String)}
    (apart : options.Pairwise fun earlier later => ¬ Mentions (optionText earlier) later.1)
    (plain : ∀ option ∈ options, '&' ∉ option.1.toList ++ ['=']) (dsn : List Char) :
    (options.map defaultOf).foldl addDefault dsn =
      dsn ++ (options.filter fun option => ¬ Mentions dsn option.1).flatMap optionText := by
  induction options generalizing dsn with
  | nil => simp
  | cons option options induction =>
    obtain ⟨first, others⟩ := List.pairwise_cons.mp apart
    obtain ⟨_, plainLater⟩ := List.forall_mem_cons.mp plain
    rw [List.map_cons, List.foldl_cons, addDefault_eq, induction others plainLater]
    by_cases mentioned : Mentions dsn option.1
    · simp [mentioned]
    · have unchanged := filter_mentions fun later member =>
        (@mentions_optionText dsn later.1 (plainLater later member) option).trans
          (or_iff_left (first later member))
      rw [if_neg mentioned, unchanged, List.filter_cons_of_pos (by simpa using mentioned),
        List.flatMap_cons, List.append_assoc]

theorem sessionOptions_apart :
    sessionOptions.Pairwise fun earlier later => ¬ Mentions (optionText earlier) later.1 := by
  decide

/-- The query with its first `?&` collapsed, as it is behind the question mark that opens it. -/
def collapse (query : List Char) : List Char :=
  if query.head? = some '&' then query.tail else Text.replaceFirst ['?', '&'] ['?'] query

theorem replaceFirst_query (absent : '?' ∉ head) (query : List Char) :
    Text.replaceFirst ['?', '&'] ['?'] (head ++ '?' :: query) = head ++ '?' :: collapse query := by
  rw [Text.replaceFirst, Text.splitOnce?_append absent]
  by_cases opens : query.head? = some '&'
  · obtain ⟨rest, rfl⟩ : ∃ rest, query = '&' :: rest := by
      cases query with
      | nil => cases opens
      | cons c rest => exact ⟨rest, by rw [Option.some.inj opens]⟩
    simp [Text.splitOnce?, Text.stripStart?, collapse]
  · have notHere : Text.stripStart? ['?', '&'] ('?' :: query) = none := by
      cases query with
      | nil => simp [Text.stripStart?]
      | cons c rest =>
        have other : ¬ '&' = c := fun same => opens (by rw [← same]; rfl)
        simp [Text.stripStart?, other]
    rw [Text.splitOnce?, notHere, collapse, if_neg opens, Text.replaceFirst]
    cases Text.splitOnce? ['?', '&'] query <;> simp

theorem sessionOptions_plain {option : String × String} (member : option ∈ sessionOptions) :
    '&' ∉ option.1.toList ++ ['='] ∧ '?' ∉ option.1.toList ++ ['='] := by
  revert option
  decide

theorem cutQuery_addDefaults (dsn : List Char) :
    cutQuery (addDefaults dsn) = ((cutQuery dsn).1, collapse (extendedQuery dsn)) := by
  -- the string with a question mark, cut there
  obtain ⟨absent, queried, kept⟩ : '?' ∉ (cutQuery dsn).1 ∧
      (if dsn.contains '?' then dsn else dsn ++ ['?']) =
        (cutQuery dsn).1 ++ '?' :: (cutQuery dsn).2 ∧
      ∀ option ∈ sessionOptions,
        (Mentions ((cutQuery dsn).1 ++ '?' :: (cutQuery dsn).2) option.1 ↔
          Mentions dsn option.1) := by
    by_cases member : '?' ∈ dsn
    · obtain ⟨head, query, rfl, absent⟩ := List.eq_append_cons_of_mem member
      simp [cutQuery_append absent, absent]
    · rw [cutQuery_of_not_mem member]
      refine ⟨member, by simp [member], fun option listed => ?_⟩
      simp [Mentions, Text.infix_around (sessionOptions_plain listed).2]
  have added : addDefaults dsn = (cutQuery dsn).1 ++ '?' :: collapse (extendedQuery dsn) := by
    have plain (option) (listed : option ∈ sessionOptions) := (sessionOptions_plain listed).1
    rw [addDefaults, mysqlDefaults_eq, queried, foldl_addDefault sessionOptions_apart plain,
      filter_mentions kept, List.append_assoc, List.cons_append]
    exact replaceFirst_query absent (extendedQuery dsn)
  rw [added, cutQuery_append absent]

theorem decode_optionText {option : String × String} (member : option ∈ sessionOptions) :
    decode (optionText option) = [option] := by
  revert option
  decide +kernel

theorem decode_append_options {options : List (String × String)} (listed : options ⊆ sessionOptions)
    (query : List Char) :
    decode (query ++ options.flatMap optionText) = decode query ++ options := by
  induction options generalizing query with
  | nil => simp
  | cons option options induction =>
    obtain ⟨member, others⟩ := List.cons_subset.mp listed
    have later := induction others (optionText option).tail
    have alone : decode (optionText option).tail = [option] :=
      (decode_ampersand _).symm.trans (decode_optionText member)
    rw [alone] at later
    have regroup : query ++ (option :: options).flatMap optionText =
        query ++ '&' :: ((optionText option).tail ++ options.flatMap optionText) := rfl
    rw [regroup, decode_append_ampersand, later, List.singleton_append]

theorem unmentioned_subset (dsn : List Char) : unmentioned dsn ⊆ sessionOptions :=
  List.filter_subset_self sessionOptions

theorem unset_subset (params : List (String × String)) : unset params ⊆ sessionOptions :=
  List.filter_subset_self sessionOptions

theorem decode_extendedQuery (dsn : List Char) :
    decode (extendedQuery dsn) = decode (cutQuery dsn).2 ++ unmentioned dsn :=
  decode_append_options (unmentioned_subset dsn) _

theorem decode_collapse (apart : ¬ JoinsParams query) : decode (collapse query) = decode query := by
  by_cases opens : query.head? = some '&'
  · rw [collapse, if_pos opens]
    cases query with
    | nil => rfl
    | cons c query =>
      obtain rfl : c = '&' := Option.some.inj opens
      rw [List.tail_cons, decode_ampersand]
  · rw [collapse, if_neg opens, Text.replaceFirst]
    cases found : Text.splitOnce? ['?', '&'] query with
    | none => rfl
    | some parts =>
      obtain ⟨before, after⟩ := parts
      obtain ⟨rfl, first⟩ := (Text.splitOnce?_eq_some_iff (by simp)).mp found
      have blank : ∀ next ∈ after.head?, next = '&' := fun next atHead => by
        obtain ⟨rest, rfl⟩ := List.head?_eq_some_iff.mp atHead
        by_contra other
        exact apart ⟨opens, before, next, rest, by simp, other, first⟩
      have cut : before ++ ['?', '&'] ++ after = before ++ ['?'] ++ '&' :: after := by simp
      rw [cut, decode_append_ampersand]
      exact FormUrl.decode_append_of_head? _ blank

theorem mark_not_mem_options {options : List (String × String)}
    (listed : options ⊆ sessionOptions) :
    '?' ∉ options.flatMap optionText := by
  have plain : ∀ option ∈ sessionOptions, '?' ∉ optionText option := by decide
  simp only [List.mem_flatMap, not_exists, not_and]
  exact fun option member => plain option (listed member)

theorem blank_not_mem_options {options : List (String × String)}
    (listed : options ⊆ sessionOptions) :
    ("", "") ∉ options := by
  have absent : ("", "") ∉ sessionOptions := by decide
  exact fun member => absent (listed member)

/-- A question mark of the extended query stands in the given one. -/
theorem extendedQuery_mark {before after : List Char}
    (whole : extendedQuery dsn = before ++ '?' :: after) :
    ∃ more, (cutQuery dsn).2 = before ++ '?' :: more ∧
      after = more ++ (unmentioned dsn).flatMap optionText := by
  have absent := mark_not_mem_options (unmentioned_subset dsn)
  rcases List.append_eq_append_iff.mp whole with ⟨gap, _, options⟩ | ⟨gap, given, rest⟩
  · exact absurd (by simp [options]) absent
  · cases gap with
    | nil =>
      rw [← List.nil_append ((unmentioned dsn).flatMap optionText), ← rest] at absent
      exact absurd List.mem_cons_self absent
    | cons c more =>
      obtain ⟨rfl, rfl⟩ := List.cons.inj rest
      exact ⟨more, given, rfl⟩

/-- Collapsing that joins two parameters loses one, and what is left of the two differs from the
first unless the second was a lone equals sign; so no options make up for it. -/
theorem decode_collapse_ne (joins : JoinsParams (extendedQuery dsn))
    {options : List (String × String)} (listed : options ⊆ sessionOptions) :
    decode (collapse (extendedQuery dsn)) ≠ decode (cutQuery dsn).2 ++ options := by
  obtain ⟨closed, before, next, after, whole, plain, first⟩ := joins
  have collapsed : collapse (extendedQuery dsn) = before ++ '?' :: next :: after := by
    have found : Text.splitOnce? ['?', '&'] (extendedQuery dsn) = some (before, next :: after) :=
      (Text.splitOnce?_eq_some_iff (by simp)).mpr ⟨by simp [whole], first⟩
    rw [collapse, if_neg closed, Text.replaceFirst, found]
    simp
  obtain ⟨more, given, tail⟩ := extendedQuery_mark whole
  have blank : ∀ c ∈ more.head?, c = '&' := fun c atHead => by
    obtain ⟨rest, rfl⟩ := List.head?_eq_some_iff.mp atHead
    exact (List.cons.inj tail).1.symm
  -- the two parameters that are joined, and those before and behind them
  obtain ⟨earlier, last, lastPlain, behind⟩ := FormUrl.exists_last_segment before
  obtain ⟨second, later, secondPlain, ahead⟩ := FormUrl.exists_first_segment plain after
  have joined : decode (collapse (extendedQuery dsn)) =
      earlier ++ FormUrl.decodeSegment (last ++ '?' :: next :: second) :: later := by
    have regroup (rest : List Char) :
        last ++ '?' :: next :: rest = last ++ ['?'] ++ next :: rest := by simp
    have whole : '&' ∉ last ++ '?' :: next :: second := by
      simp only [List.mem_append, List.mem_cons, not_or] at secondPlain ⊢
      exact ⟨lastPlain, by decide, secondPlain⟩
    rw [collapsed, behind, regroup, ahead, ← regroup, FormUrl.decode_segment (by simp) whole]
    rfl
  have kept : decode (cutQuery dsn).2 =
      earlier ++ FormUrl.decodeSegment (last ++ ['?']) :: decode more := by
    have regroup : last ++ '?' :: more = last ++ ['?'] ++ more := by simp
    rw [given, behind, regroup, FormUrl.decode_append_of_head? _ blank,
      FormUrl.decode_segment (by simp) (by simp [lastPlain])]
    rfl
  have apart : decode more ++ unmentioned dsn =
      FormUrl.decodeSegment (next :: second) :: later := by
    have alone := ahead []
    rw [List.nil_append, List.nil_append, FormUrl.decode_segment (by simp) secondPlain] at alone
    rw [← decode_append_options (unmentioned_subset dsn), ← tail, decode_ampersand, alone]
    rfl
  intro same
  rw [joined, kept, List.append_assoc, List.append_right_inj, List.cons_append,
    List.cons.injEq] at same
  obtain ⟨pair, rest⟩ := same
  rw [FormUrl.decodeSegment_joined (List.cons_ne_nil next second) pair, rest] at apart
  have counts := congrArg (List.count ("", "")) apart
  simp [List.count_eq_zero_of_not_mem (blank_not_mem_options (unmentioned_subset dsn)),
    List.count_eq_zero_of_not_mem (blank_not_mem_options listed)] at counts

theorem read_eq_ok {dsn : String} {parts : MySqlDsn} (other : String)
    (given : MySqlDsn.read dsn = .ok parts)
    (same : (cutQuery other.toList).1 = (cutQuery dsn.toList).1) :
    parts.params = decode (cutQuery dsn.toList).2 ∧
      MySqlDsn.read other = .ok { parts with params := decode (cutQuery other.toList).2 } := by
  rw [MySqlDsn.read] at given ⊢
  simp only [same]
  cases cut : Text.splitLast? '/' (cutQuery dsn.toList).1 with
  | none => simp [cut] at given
  | some ends =>
    simp only [cut] at given ⊢
    cases address : MySqlAddress.read (cutServer ends.1).2 with
    | error problem => simp [address] at given
    | ok host =>
      simp only [address, Except.ok.injEq] at given ⊢
      subst given
      exact ⟨rfl, rfl⟩

theorem unmentioned_eq_unset_iff {params : List (String × String)} :
    unmentioned dsn = unset params ↔
      ∀ option ∈ sessionOptions, Mentions dsn option.1 ↔ option.1 ∈ params.map Prod.fst := by
  constructor
  · intro same option member
    have both : option ∈ unmentioned dsn ↔ option ∈ unset params := by rw [same]
    simpa only [unmentioned, unset, List.mem_filter, member, true_and, decide_eq_true_eq,
      not_iff_not] using both
  · intro same
    exact List.filter_congr fun option member => by simp [same option member]

/-- The first parameter with a key is not changed by what is appended. -/
theorem param?_append {dsn other : MySqlDsn} {options : List (String × String)}
    (appended : other.params = dsn.params ++ options) {key : String}
    (isSet : key ∈ dsn.params.map Prod.fst) : other.param? key = dsn.param? key := by
  obtain ⟨param, member, rfl⟩ := List.mem_map.mp isSet
  have found : (dsn.params.find? fun other => other.1 == param.1).isSome := by
    rw [List.find?_isSome]
    exact ⟨param, member, beq_self_eq_true _⟩
  rw [MySqlDsn.param?, MySqlDsn.param?, appended, List.find?_append, Option.or_of_isSome found]

/-- A cleaned string is read with the same user, password, address and database. Its parameters are
the given ones and the options that they do not set exactly when the text mentions the keys that are
set and collapsing joins no two parameters. In the latter case each given key keeps its value. -/
theorem cleaned_params_iff {dsn : String} {bare : List Char} {given : MySqlDsn}
    (stripped : dropScheme "mysql://" dsn.toList = bare)
    (read : MySqlDsn.read (String.ofList bare) = .ok given) :
    ∃ cleaned, MySqlDsn.read (cleanFor .mysql dsn) = .ok cleaned ∧
      (cleaned.user = given.user ∧ cleaned.password = given.password ∧
        cleaned.address = given.address ∧ cleaned.database = given.database) ∧
      (cleaned.params = given.params ++ unset given.params ↔
        (∀ option ∈ sessionOptions, Mentions bare option.1 ↔
            option.1 ∈ given.params.map Prod.fst) ∧
          ¬ JoinsParams (extendedQuery bare)) ∧
      (¬ JoinsParams (extendedQuery bare) →
        ∀ key ∈ given.params.map Prod.fst, cleaned.param? key = given.param? key) := by
  have text : (cleanFor .mysql dsn).toList = addDefaults bare := by
    rw [cleanFor, stripped, String.toList_ofList]
  have cut := cutQuery_addDefaults bare
  obtain ⟨params, again⟩ := read_eq_ok (cleanFor .mysql dsn) read
    (by rw [text, cut, String.toList_ofList])
  rw [text, cut] at again
  rw [String.toList_ofList] at params
  have appended (apart : ¬ JoinsParams (extendedQuery bare)) :
      decode (collapse (extendedQuery bare)) = given.params ++ unmentioned bare := by
    rw [decode_collapse apart, decode_extendedQuery, params]
  refine ⟨_, again, ⟨rfl, rfl, rfl, rfl⟩, ?_, fun apart key => param?_append (appended apart)⟩
  by_cases joins : JoinsParams (extendedQuery bare)
  · have lost := decode_collapse_ne joins (unset_subset given.params)
    rw [← params] at lost
    exact iff_of_false lost fun both => both.2 joins
  · rw [← unmentioned_eq_unset_iff, appended joins, List.append_right_inj]
    exact (and_iff_left joins).symm

/-- A string that sets the time zone gets the other two options. -/
theorem utcDsn_cleaned : ∃ given cleaned,
    MySqlDsn.read "root:pw@tcp(db:3306)/app?loc=UTC" = .ok given ∧
      MySqlDsn.read (cleanFor .mysql "mysql://root:pw@tcp(db:3306)/app?loc=UTC") = .ok cleaned ∧
      cleaned.database = given.database ∧ cleaned.params = given.params ++ unset given.params ∧
      cleaned.param? "loc" = given.param? "loc" := by
  have stripped : dropScheme "mysql://" "mysql://root:pw@tcp(db:3306)/app?loc=UTC".toList =
      "root:pw@tcp(db:3306)/app?loc=UTC".toList := by
    decide +kernel
  have given : MySqlDsn.read (String.ofList "root:pw@tcp(db:3306)/app?loc=UTC".toList) =
      .ok ⟨some "root", some "pw", .tcp "db" (some 3306), some "app", [("loc", "UTC")]⟩ := by
    decide +kernel
  obtain ⟨cleaned, read, ⟨_, _, _, database⟩, params, kept⟩ := cleaned_params_iff stripped given
  exact ⟨_, cleaned, given, read, database, params.mpr (by decide +kernel),
    kept (by decide +kernel) "loc" (by decide)⟩

/-- A password that looks like an option keeps the option out. -/
theorem password_hides_option : ∃ given cleaned,
    MySqlDsn.read "root:loc=1@tcp(db:3306)/app" = .ok given ∧
      MySqlDsn.read (cleanFor .mysql "root:loc=1@tcp(db:3306)/app") = .ok cleaned ∧
      given.params = [] ∧ cleaned.params ≠ given.params ++ unset given.params :=
  ⟨⟨some "root", some "loc=1", .tcp "db" (some 3306), some "app", []⟩,
    ⟨some "root", some "loc=1", .tcp "db" (some 3306), some "app",
      [("collation", "utf8mb4_general_ci"), ("parseTime", "true")]⟩,
    by decide +kernel, by decide +kernel, rfl, by decide⟩

end SqlMigrations.Dsn
