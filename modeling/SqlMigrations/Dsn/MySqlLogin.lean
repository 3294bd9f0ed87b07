import SqlMigrations.Dsn.MySql
import SqlMigrations.Error

namespace SqlMigrations.Dsn

/-- The rules of a language that the large character sets have. -/
def languageRules : List String :=
  ["croatian_ci", "czech_ci", "danish_ci", "esperanto_ci", "estonian_ci", "german2_ci",
    "hungarian_ci", "icelandic_ci", "latvian_ci", "lithuanian_ci", "persian_ci", "polish_ci",
    "roman_ci", "romanian_ci", "sinhala_ci", "slovak_ci", "slovenian_ci", "spanish2_ci",
    "spanish_ci", "swedish_ci", "turkish_ci", "unicode_520_ci", "unicode_ci", "vietnamese_ci"]

/-- The character sets with the rules by which each of them can be sorted. -/
def characterSets : List (String × List String) :=
  [("armscii8", ["bin", "general_ci"]), ("ascii", ["bin", "general_ci"]),
    ("big5", ["bin", "chinese_ci"]),
    ("cp1250", ["bin", "croatian_ci", "czech_cs", "general_ci", "polish_ci"]),
    ("cp1251", ["bin", "bulgarian_ci", "general_ci", "general_cs", "ukrainian_ci"]),
    ("cp1256", ["bin", "general_ci"]), ("cp1257", ["bin", "general_ci", "lithuanian_ci"]),
    ("cp850", ["bin", "general_ci"]), ("cp852", ["bin", "general_ci"]),
    ("cp866", ["bin", "general_ci"]), ("cp932", ["bin", "japanese_ci"]),
    ("dec8", ["bin", "swedish_ci"]), ("eucjpms", ["bin", "japanese_ci"]),
    ("euckr", ["bin", "korean_ci"]), ("gb18030", ["bin", "chinese_ci", "unicode_520_ci"]),
    ("gb2312", ["bin", "chinese_ci"]), ("gbk", ["bin", "chinese_ci"]),
    ("geostd8", ["bin", "general_ci"]), ("greek", ["bin", "general_ci"]),
    ("hebrew", ["bin", "general_ci"]), ("hp8", ["bin", "english_ci"]),
    ("keybcs2", ["bin", "general_ci"]), ("koi8r", ["bin", "general_ci"]),
    ("koi8u", ["bin", "general_ci"]),
    ("latin1", ["bin", "danish_ci", "general_ci", "general_cs", "german1_ci", "german2_ci",
      "spanish_ci", "swedish_ci"]),
    ("latin2", ["bin", "croatian_ci", "czech_cs", "general_ci", "hungarian_ci"]),
    ("latin5", ["bin", "turkish_ci"]), ("latin7", ["bin", "estonian_cs", "general_ci",
      "general_cs"]),
    ("macce", ["bin", "general_ci"]), ("macroman", ["bin", "general_ci"]),
    ("sjis", ["bin", "japanese_ci"]), ("swe7", ["bin", "swedish_ci"]),
    ("tis620", ["bin", "thai_ci"]),
    ("ucs2", ["bin", "general_ci", "general_mysql500_ci"] ++ languageRules),
    ("ujis", ["bin", "japanese_ci"]), ("utf16", ["bin", "general_ci"] ++ languageRules),
    ("utf16le", ["bin", "general_ci"]), ("utf32", ["bin", "general_ci"] ++ languageRules),
    ("utf8", ["bin", "general_ci", "general_mysql500_ci", "tolower_ci"] ++ languageRules),
    ("utf8mb4", ["bin", "general_ci", "0900_ai_ci"] ++ languageRules)]

/-- The names of all collations: a character set and a rule, and one for bytes. -/
def collations : List String :=
  "binary" :: characterSets.flatMap (fun set => set.2.map (fun rule => set.1 ++ "_" ++ rule))

/-- Checks the collation that a connection string asks for. -/
def MySqlDsn.checkCollation (dsn : MySqlDsn) : Except DriverFailure Unit :=
  match dsn.param? "collation" with
  | none => .ok ()
  | some collation =>
    if collations.contains collation then .ok ()
    else .error (.configuration ("unsupported MySQL collation: " ++ collation))

/-- What a server learns of a connection: the user, whether a password was sent, the database and
the collation. -/
structure MySqlLogin where
  user : String
  hasPassword : Bool
  database : String
  collation : String
  deriving Repr, DecidableEq

/-- The login that a connection string asks for. -/
def MySqlDsn.login (dsn : MySqlDsn) : MySqlLogin :=
  ⟨dsn.user.getD "root", (dsn.password.getD "") != "", dsn.database.getD "",
    (dsn.param? "collation").getD "utf8mb4_unicode_ci"⟩

end SqlMigrations.Dsn
