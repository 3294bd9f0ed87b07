import SqlMigrations.Dsn.MySql
import SqlMigrations.Proofs.Text.Decimal
import SqlMigrations.Proofs.Text.FormUrl

/-!
Reading a MySQL connection string that was written. Nothing is escaped before the question mark, so
a string is read back only if its parts are kept apart: the user ends at the first colon, the
address starts behind the last at sign, the port behind the last colon of the address and the
database behind the last slash. A password may then hold every delimiter but the question mark, and
a socket path every one but that and the at sign.
-/

namespace SqlMigrations.Dsn

open Text
open Text.FormUrl (decode cutQuery cutQuery_append cutQuery_of_not_mem decode_encode)

variable {address : MySqlAddress} {dsn : MySqlDsn} {text : List Char}

/-- Whether an address is kept apart from what stands around it. -/
def MySqlAddress.Writable : MySqlAddress → Prop
  | .tcp host none => host ≠ "" ∧ ':' ∉ host.toList ∧ '@' ∉ host.toList ∧ '?' ∉ host.toList
  | .tcp host (some port) => port ≤ maxPort ∧ '@' ∉ host.toList ∧ '?' ∉ host.toList
  | .unix path => '@' ∉ path.toList ∧ '?' ∉ path.toList

/-- What keeps the parts of a connection string apart once it is written. -/
structure MySqlDsn.Writable (dsn : MySqlDsn) : Prop where
  user : ∀ user ∈ dsn.user, user ≠ "" ∧ ':' ∉ user.toList ∧ '?' ∉ user.toList
  password : ∀ password ∈ dsn.password, '?' ∉ password.toList
  owned : dsn.user = none → dsn.password = none
  address : dsn.address.Writable
  database : ∀ database ∈ dsn.database,
    database ≠ "" ∧ '/' ∉ database.toList ∧ '?' ∉ database.toList

instance (address : MySqlAddress) : Decidable address.Writable :=
  match address with
  | .tcp host none => inferInstanceAs
      (Decidable (host ≠ "" ∧ ':' ∉ host.toList ∧ '@' ∉ host.toList ∧ '?' ∉ host.toList))
  | .tcp host (some port) => inferInstanceAs
      (Decidable (port ≤ maxPort ∧ '@' ∉ host.toList ∧ '?' ∉ host.toList))
  | .unix path => inferInstanceAs (Decidable ('@' ∉ path.toList ∧ '?' ∉ path.toList))

instance (dsn : MySqlDsn) : Decidable dsn.Writable :=
  decidable_of_iff
    ((∀ user ∈ dsn.user, user ≠ "" ∧ ':' ∉ user.toList ∧ '?' ∉ user.toList) ∧
      (∀ password ∈ dsn.password, '?' ∉ password.toList) ∧
      (dsn.user = none → dsn.password = none) ∧ dsn.address.Writable ∧
      ∀ database ∈ dsn.database, database ≠ "" ∧ '/' ∉ database.toList ∧ '?' ∉ database.toList)
    ⟨fun ⟨user, password, owned, address, database⟩ =>
        ⟨user, password, owned, address, database⟩,
      fun ⟨user, password, owned, address, database⟩ =>
        ⟨user, password, owned, address, database⟩⟩

theorem nonempty?_eq_some_iff {part : String} :
    nonempty? text = some part ↔ part ≠ "" ∧ part.toList = text := by
  rw [nonempty?]
  cases text with
  | nil => simp
  | cons c text =>
    simp only [List.isEmpty_cons, Bool.false_eq_true, if_false, Option.some.injEq]
    constructor
    · rintro rfl
      simp
    · rintro ⟨_, same⟩
      rw [← same, String.ofList_toList]

theorem read_network {network : List Char} (plain : '(' ∉ network) (inner : List Char) :
    MySqlAddress.read (network ++ '(' :: (inner ++ [')'])) = MySqlAddress.readOn network inner := by
  have opened : splitFirst? '(' (network ++ '(' :: (inner ++ [')'])) =
      some (network, inner ++ [')']) :=
    splitFirst?_eq_some_iff.mpr ⟨rfl, plain⟩
  have closed : stripEnd? [')'] (inner ++ [')']) = some inner := stripEnd?_eq_some_iff.mpr rfl
  simp only [MySqlAddress.read, opened, closed]

theorem readTcp_port {port : Nat} (host : List Char) (fits : port ≤ maxPort) :
    MySqlAddress.readTcp (host ++ ':' :: Nat.toDigits 10 port) =
      .ok (.tcp (String.ofList host) (some port)) := by
  have absent : ':' ∉ Nat.toDigits 10 port := not_mem_toDigits rfl port
  have cut : splitLast? ':' (host ++ ':' :: Nat.toDigits 10 port) =
      some (host, Nat.toDigits 10 port) :=
    splitLast?_eq_some_iff.mpr ⟨rfl, absent⟩
  simp [MySqlAddress.readTcp, cut, readUnsigned_toDigits fits]

theorem readTcp_host {host : List Char} (nonempty : host ≠ []) (absent : ':' ∉ host) :
    MySqlAddress.readTcp host = .ok (.tcp (String.ofList host) none) := by
  simp [MySqlAddress.readTcp, nonempty, splitLast?_eq_none_iff.mpr absent]

theorem write_unix (path : String) :
    (MySqlAddress.unix path).write = "unix".toList ++ '(' :: (path.toList ++ [')']) :=
  rfl

theorem write_host (host : String) :
    (MySqlAddress.tcp host none).write = "tcp".toList ++ '(' :: (host.toList ++ [')']) :=
  rfl

theorem write_port (host : String) (port : Nat) :
    (MySqlAddress.tcp host (some port)).write =
      "tcp".toList ++ '(' :: ((host.toList ++ ':' :: Nat.toDigits 10 port) ++ [')']) := by
  have whole : (MySqlAddress.tcp host (some port)).write =
      "tcp(".toList ++ host.toList ++ ':' :: Nat.toDigits 10 port ++ [')'] := rfl
  rw [whole, List.append_assoc, List.append_assoc, List.append_assoc]
  rfl

theorem read_writtenAddress (writable : address.Writable) :
    MySqlAddress.read address.write = .ok address := by
  match address, writable with
  | .unix path, _ =>
    rw [write_unix, read_network (by decide)]
    simp [MySqlAddress.readOn]
  | .tcp host none, ⟨nonempty, absent, _⟩ =>
    rw [write_host, read_network (by decide)]
    simp [MySqlAddress.readOn, readTcp_host (by simpa using nonempty) absent]
  | .tcp host (some port), ⟨fits, _⟩ =>
    rw [write_port, read_network (by decide)]
    simp [MySqlAddress.readOn, readTcp_port host.toList fits]

theorem mark_not_mem_write (writable : address.Writable) :
    '@' ∉ address.write ∧ '?' ∉ address.write := by
  match address, writable with
  | .unix path, ⟨atSign, question⟩ => simp [write_unix, atSign, question]
  | .tcp host none, ⟨_, _, atSign, question⟩ => simp [write_host, atSign, question]
  | .tcp host (some port), ⟨_, atSign, question⟩ =>
    have atDigits : '@' ∉ Nat.toDigits 10 port := not_mem_toDigits rfl port
    have questionDigits : '?' ∉ Nat.toDigits 10 port := not_mem_toDigits rfl port
    simp [write_port, atSign, question, atDigits, questionDigits]

def credentialsText (user : String) (password : Option String) : List Char :=
  match password with
  | none => user.toList
  | some password => user.toList ++ ':' :: password.toList

theorem writeCredentials_some (user : String) (password : Option String) :
    writeCredentials (some user) password = credentialsText user password ++ ['@'] := by
  cases password <;> simp [writeCredentials, credentialsText]

theorem readCredentials_written {user : String} (nonempty : user ≠ "") (absent : ':' ∉ user.toList)
    (password : Option String) :
    readCredentials (credentialsText user password) = (some user, password) := by
  have kept : nonempty? user.toList = some user := nonempty?_eq_some_iff.mpr ⟨nonempty, rfl⟩
  cases password with
  | none => simp [readCredentials, credentialsText, splitFirst?_of_not_mem absent, kept]
  | some password =>
    have cut : splitFirst? ':' (user.toList ++ ':' :: password.toList) =
        some (user.toList, password.toList) :=
      splitFirst?_eq_some_iff.mpr ⟨rfl, absent⟩
    simp [readCredentials, credentialsText, cut, kept]

theorem cutServer_written (writable : dsn.Writable) (absent : '@' ∉ text) :
    cutServer (writeCredentials dsn.user dsn.password ++ text) =
      ((dsn.user, dsn.password), text) := by
  cases owner : dsn.user with
  | none =>
    rw [writeCredentials, List.nil_append, cutServer, splitLast?_eq_none_iff.mpr absent,
      writable.owned owner]
  | some user =>
    obtain ⟨nonempty, noColon, _⟩ := writable.user user owner
    have cut : splitLast? '@' (credentialsText user dsn.password ++ '@' :: text) =
        some (credentialsText user dsn.password, text) :=
      splitLast?_eq_some_iff.mpr ⟨rfl, absent⟩
    rw [writeCredentials_some, List.append_assoc, List.singleton_append, cutServer, cut]
    simp only [readCredentials_written nonempty noColon]

theorem mark_not_mem_writeCredentials (writable : dsn.Writable) :
    '?' ∉ writeCredentials dsn.user dsn.password := by
  cases owner : dsn.user with
  | none => simp [writeCredentials]
  | some user =>
    obtain ⟨_, _, inUser⟩ := writable.user user owner
    cases secret : dsn.password with
    | none => simp [writeCredentials, inUser]
    | some password => simp [writeCredentials, inUser, writable.password password secret]

/-- What is written of a connection string before its parameters. -/
def MySqlDsn.head (dsn : MySqlDsn) : List Char :=
  writeCredentials dsn.user dsn.password ++ dsn.address.write ++
    '/' :: (dsn.database.getD "").toList

/-- A connection string whose parameters are encoded by a given text. -/
def MySqlDsn.writeWith (dsn : MySqlDsn) (query : List Char) : String :=
  String.ofList (dsn.head ++ '?' :: query)

theorem database_written (writable : dsn.Writable) :
    nonempty? (dsn.database.getD "").toList = dsn.database ∧
      '/' ∉ (dsn.database.getD "").toList ∧ '?' ∉ (dsn.database.getD "").toList := by
  cases named : dsn.database with
  | none => simp [nonempty?]
  | some database =>
    obtain ⟨nonempty, noSlash, noMark⟩ := writable.database database named
    exact ⟨nonempty?_eq_some_iff.mpr ⟨nonempty, rfl⟩, noSlash, noMark⟩

theorem mark_not_mem_head (writable : dsn.Writable) : '?' ∉ dsn.head := by
  simp [MySqlDsn.head, mark_not_mem_writeCredentials writable,
    (mark_not_mem_write writable.address).2, (database_written writable).2.2]

theorem read_of_head {written : String} {query : List Char} (writable : dsn.Writable)
    (cut : cutQuery written.toList = (dsn.head, query)) :
    MySqlDsn.read written = .ok { dsn with params := decode query } := by
  obtain ⟨database, noSlash, _⟩ := database_written writable
  have parts : splitLast? '/' dsn.head =
      some (writeCredentials dsn.user dsn.password ++ dsn.address.write,
        (dsn.database.getD "").toList) :=
    splitLast?_eq_some_iff.mpr ⟨rfl, noSlash⟩
  have server := cutServer_written writable (mark_not_mem_write writable.address).1
  simp only [MySqlDsn.read, cut, parts, server, read_writtenAddress writable.address, database]

theorem read_writeWith (writable : dsn.Writable) (query : List Char) :
    MySqlDsn.read (dsn.writeWith query) = .ok { dsn with params := decode query } := by
  refine read_of_head writable ?_
  rw [MySqlDsn.writeWith, String.toList_ofList, cutQuery_append (mark_not_mem_head writable)]

theorem read_write (writable : dsn.Writable) : MySqlDsn.read dsn.write = .ok dsn := by
  have whole : dsn.write = String.ofList (dsn.head ++ writeParams dsn.params) := rfl
  by_cases none : dsn.params = []
  · have alone : cutQuery dsn.write.toList = (dsn.head, []) := by
      rw [whole, none, String.toList_ofList]
      exact (congrArg cutQuery (List.append_nil _)).trans
        (cutQuery_of_not_mem (mark_not_mem_head writable))
    rw [read_of_head writable alone, FormUrl.decode_nil, ← none]
  · have opened : dsn.write = dsn.writeWith (FormUrl.encode dsn.params) := by
      rw [whole, writeParams, if_neg (by simpa using none), MySqlDsn.writeWith]
    rw [opened, read_writeWith writable, decode_encode]

theorem writable_of_readTcp (atSign : '@' ∉ text) (question : '?' ∉ text)
    (read : MySqlAddress.readTcp text = .ok address) : address.Writable := by
  rw [MySqlAddress.readTcp] at read
  by_cases empty : text.isEmpty
  · rw [if_pos empty] at read
    obtain rfl := Except.ok.inj read
    simp [MySqlAddress.Writable]
  · rw [if_neg empty] at read
    cases cut : splitLast? ':' text with
    | none =>
      simp only [cut, Except.ok.injEq] at read
      subst read
      simp only [MySqlAddress.Writable, String.toList_ofList]
      exact ⟨by simpa using empty, splitLast?_eq_none_iff.mp cut, atSign, question⟩
    | some parts =>
      obtain ⟨host, digits⟩ := parts
      obtain ⟨rfl, _⟩ := splitLast?_eq_some_iff.mp cut
      cases number : readUnsigned maxPort digits with
      | error problem => simp [cut, number] at read
      | ok port =>
        simp only [cut, number, Except.ok.injEq] at read
        subst read
        simp only [List.mem_append, not_or] at atSign question
        simp only [MySqlAddress.Writable, String.toList_ofList]
        exact ⟨readUnsigned_le number, atSign.1, question.1⟩

theorem writable_of_readOn {network : List Char} (atSign : '@' ∉ text) (question : '?' ∉ text)
    (read : MySqlAddress.readOn network text = .ok address) : address.Writable := by
  rw [MySqlAddress.readOn] at read
  by_cases unix : network = "unix".toList
  · rw [if_pos unix] at read
    obtain rfl := Except.ok.inj read
    simp [MySqlAddress.Writable, atSign, question]
  · rw [if_neg unix] at read
    by_cases tcp : network = "tcp".toList ∨ network = []
    · rw [if_pos tcp] at read
      exact writable_of_readTcp atSign question read
    · rw [if_neg tcp] at read
      cases read

theorem writable_of_readAddress (atSign : '@' ∉ text) (question : '?' ∉ text)
    (read : MySqlAddress.read text = .ok address) : address.Writable := by
  rw [MySqlAddress.read] at read
  cases cut : splitFirst? '(' text with
  | none =>
    simp only [cut] at read
    exact writable_of_readOn atSign question read
  | some parts =>
    obtain ⟨network, rest⟩ := parts
    cases closed : stripEnd? [')'] rest with
    | none => simp [cut, closed] at read
    | some inner =>
      simp only [cut, closed] at read
      obtain ⟨rfl, _⟩ := splitFirst?_eq_some_iff.mp cut
      obtain rfl := stripEnd?_eq_some_iff.mp closed
      have inside : inner ⊆ network ++ '(' :: (inner ++ [')']) := fun c member => by simp [member]
      exact writable_of_readOn (fun member => atSign (inside member))
        (fun member => question (inside member)) read

theorem readCredentials_cases (text : List Char) :
    (∃ user password, text = user ++ ':' :: password ∧ ':' ∉ user ∧
        readCredentials text = (nonempty? user, some (String.ofList password))) ∨
      (':' ∉ text ∧ readCredentials text = (nonempty? text, none)) := by
  rw [readCredentials]
  cases cut : splitFirst? ':' text with
  | none => exact .inr ⟨splitFirst?_eq_none_iff.mp cut, rfl⟩
  | some parts =>
    obtain ⟨whole, absent⟩ := splitFirst?_eq_some_iff.mp cut
    exact .inl ⟨parts.1, parts.2, whole, absent, rfl⟩

/-- What keeps a user and a password apart from what stands around them. -/
def CredentialsWritable (credentials : Option String × Option String) : Prop :=
  (∀ user ∈ credentials.1, user ≠ "" ∧ ':' ∉ user.toList ∧ '?' ∉ user.toList) ∧
    ∀ password ∈ credentials.2, '?' ∉ password.toList

theorem readCredentials_writable (question : '?' ∉ text) :
    CredentialsWritable (readCredentials text) := by
  rcases readCredentials_cases text with ⟨user, password, rfl, noColon, parts⟩ | ⟨noColon, parts⟩
  · rw [parts]
    simp only [List.mem_append, List.mem_cons, not_or] at question
    refine ⟨fun name kept => ?_, fun secret kept => ?_⟩
    · obtain ⟨nonempty, rfl⟩ := nonempty?_eq_some_iff.mp kept
      exact ⟨nonempty, noColon, question.1⟩
    · obtain rfl := Option.some.inj kept
      rw [String.toList_ofList]
      exact question.2.2
  · rw [parts]
    refine ⟨fun name kept => ?_, fun secret kept => by cases kept⟩
    obtain ⟨nonempty, rfl⟩ := nonempty?_eq_some_iff.mp kept
    exact ⟨nonempty, noColon, question⟩

theorem cutServer_writable (question : '?' ∉ text) :
    CredentialsWritable (cutServer text).1 ∧ '@' ∉ (cutServer text).2 ∧
      '?' ∉ (cutServer text).2 := by
  rw [cutServer]
  cases cut : splitLast? '@' text with
  | none => exact ⟨by simp [CredentialsWritable], splitLast?_eq_none_iff.mp cut, question⟩
  | some parts =>
    obtain ⟨credentials, address⟩ := parts
    obtain ⟨rfl, atSign⟩ := splitLast?_eq_some_iff.mp cut
    simp only [List.mem_append, List.mem_cons, not_or] at question
    exact ⟨readCredentials_writable question.1, atSign, question.2.2⟩

theorem read_cases {written : String} (read : MySqlDsn.read written = .ok dsn) :
    ∃ server database, (cutQuery written.toList).1 = server ++ '/' :: database ∧
      '/' ∉ database ∧ (dsn.user, dsn.password) = (cutServer server).1 ∧
      MySqlAddress.read (cutServer server).2 = .ok dsn.address ∧
      dsn.database = nonempty? database := by
  rw [MySqlDsn.read] at read
  cases cut : splitLast? '/' (cutQuery written.toList).1 with
  | none => simp [cut] at read
  | some parts =>
    obtain ⟨server, database⟩ := parts
    obtain ⟨whole, absent⟩ := splitLast?_eq_some_iff.mp cut
    cases host : MySqlAddress.read (cutServer server).2 with
    | error problem => simp [cut, host] at read
    | ok address =>
      simp only [cut, host, Except.ok.injEq] at read
      subst read
      exact ⟨server, database, whole, absent, rfl, host, rfl⟩

/-- The parts that are written: a password without a user is not. -/
def MySqlDsn.kept (dsn : MySqlDsn) : MySqlDsn :=
  { dsn with password := dsn.user.bind fun _ => dsn.password }

theorem write_kept (dsn : MySqlDsn) : dsn.kept.write = dsn.write := by
  cases owner : dsn.user <;> simp [MySqlDsn.kept, MySqlDsn.write, owner, writeCredentials]

/-- Whatever was read can be written, but for a password without a user. -/
theorem kept_writable_of_read {written : String} (read : MySqlDsn.read written = .ok dsn) :
    dsn.kept.Writable := by
  obtain ⟨server, database, whole, noSlash, credentials, address, named⟩ := read_cases read
  have question := FormUrl.mark_not_mem_cutQuery written.toList
  simp only [whole, List.mem_append, List.mem_cons, not_or] at question
  obtain ⟨inServer, _, inDatabase⟩ := question
  obtain ⟨⟨user, password⟩, noAt, noMark⟩ := cutServer_writable inServer
  rw [← credentials] at user password
  have server := writable_of_readAddress noAt noMark address
  refine ⟨user, fun secret kept => ?_, fun noUser => ?_, server, fun name kept => ?_⟩
  · obtain ⟨_, _, isSecret⟩ := Option.bind_eq_some_iff.mp kept
    exact password secret isSecret
  · have none : dsn.user = none := noUser
    simp [MySqlDsn.kept, none]
  · obtain ⟨nonempty, rfl⟩ := nonempty?_eq_some_iff.mp (named.symm.trans kept)
    exact ⟨nonempty, noSlash, inDatabase⟩

/-- A connection string is read back as what was written exactly when its parts are kept apart, and
then no matter how its parameters are encoded. -/
theorem written_reads_back (dsn : MySqlDsn) :
    (MySqlDsn.read dsn.write = .ok dsn ↔ dsn.Writable) ∧
      (dsn.Writable → ∀ query, decode query = dsn.params →
        MySqlDsn.read (dsn.writeWith query) = .ok dsn) := by
  refine ⟨⟨fun back => ?_, read_write⟩, fun writable query encoded => ?_⟩
  · -- what was read can be written, and the written parts are read back: so they are all there are
    have writable := kept_writable_of_read back
    have again := read_write writable
    rw [write_kept, back] at again
    rw [Except.ok.inj again]
    exact writable
  · rw [read_writeWith writable, encoded]

/-- A server behind a socket, with a password and a path that hold delimiters. -/
def socketDsn : MySqlDsn where
  user := some "app"
  password := some "p@s:s/(x)"
  address := .unix "/run/(my)/mysqld.sock"
  database := none
  params := [("loc", "Europe/Zürich"), ("parse time", "1&2=3")]

theorem socketDsn_reads_back : socketDsn.Writable ∧
    socketDsn.write = "app:p@s:s/(x)@unix(/run/(my)/mysqld.sock)/" ++
      "?loc=Europe%2FZ%C3%BCrich&parse+time=1%262%3D3" ∧
    MySqlDsn.read socketDsn.write = .ok socketDsn ∧
    MySqlDsn.read (socketDsn.writeWith "loc=Europe/Zürich&&parse%20time=1%262=3".toList) =
      .ok socketDsn := by
  have writable : socketDsn.Writable := by decide +kernel
  obtain ⟨back, encoded⟩ := written_reads_back socketDsn
  exact ⟨writable, by decide +kernel, back.mpr writable, encoded writable _ (by decide +kernel)⟩

end SqlMigrations.Dsn
