import Mathlib.Data.List.DropRight
import SqlMigrations.Dsn.Mask
import SqlMigrations.Proofs.Text.Search

/-!
What a masked connection string tells about the password. Masking works line by line, and a line is
veiled when a colon with two characters on either side stands before its last at sign. Two
passwords with the same ends are told apart exactly when one of them is shown as it is.
-/

namespace SqlMigrations.Dsn

variable {line user password other secret rest : List Char}

def veiled (text : List Char) : List Char :=
  text.head?.toList ++ veil ++ text.getLast?.toList

theorem getLast_cons_eq (c : Char) (text : List Char) :
    (c :: text).getLast (List.cons_ne_nil c text) = text.getLast?.getD c := by
  rw [List.getLast_eq_iff_getLast?_eq_some, List.getLast?_cons]

theorem veilUser?_reverse (user : List Char) :
    veilUser? user.reverse = if 2 ≤ user.length then some (veiled user) else none := by
  obtain ⟨back, rfl⟩ : ∃ back : List Char, user = back.reverse := ⟨user.reverse, by simp⟩
  rw [List.reverse_reverse]
  match back with
  | [] => rfl
  | [_] => rfl
  | last :: second :: more =>
    simp [veilUser?, veiled, getLast_cons_eq]

/-- The colon that counts is the last one with two characters after it. -/
theorem veilCredentials?_colon (long : 2 ≤ secret.length) (last : ':' ∉ secret.dropLast.dropLast) :
    veilCredentials? (user ++ ':' :: secret) =
      if 2 ≤ user.length then some (veiled user ++ ':' :: veiled secret) else none := by
  obtain ⟨back, rfl⟩ : ∃ back : List Char, secret = back.reverse := ⟨secret.reverse, by simp⟩
  match back with
  | [] => simp at long
  | [_] => simp at long
  | z :: y :: gap =>
    have noColon : ':' ∉ gap := by simpa using last
    have cut : Text.splitFirst? ':' (gap ++ ':' :: user.reverse) = some (gap, user.reverse) :=
      Text.splitFirst?_eq_some_iff.mpr ⟨rfl, noColon⟩
    have backwards : (user ++ ':' :: (z :: y :: gap).reverse).reverse =
        z :: y :: (gap ++ ':' :: user.reverse) := by simp
    rw [veilCredentials?, backwards]
    simp only [cut, veilUser?_reverse]
    split <;> simp [veiled, getLast_cons_eq]

theorem veilCredentials?_of_no_colon {credentials : List Char}
    (none : ':' ∉ credentials.dropLast.dropLast) : veilCredentials? credentials = .none := by
  obtain ⟨back, rfl⟩ : ∃ back : List Char, credentials = back.reverse :=
    ⟨credentials.reverse, by simp⟩
  rw [veilCredentials?, List.reverse_reverse]
  match back with
  | [] => rfl
  | [_] => rfl
  | z :: y :: more =>
    have noColon : ':' ∉ more := by simpa using none
    simp [Text.splitFirst?_of_not_mem noColon]

/-- Whether a colon with two characters after it stands before an at sign. -/
def VeilsAlone (rest : List Char) : Prop :=
  ∃ before after tail, rest = before ++ ':' :: after ++ '@' :: tail ∧ 2 ≤ after.length

/-- Whether a line tells nothing of either password but its ends. -/
def Hides (user password other rest : List Char) : Prop :=
  VeilsAlone rest ∨
    2 ≤ user.length ∧ ('@' ∈ rest ∨ 2 ≤ password.length ∧ 2 ≤ other.length)

theorem veilLine_last {credentials tail : List Char} (last : '@' ∉ tail) :
    veilLine (credentials ++ '@' :: tail) =
      (veilCredentials? credentials).getD credentials ++ '@' :: tail := by
  have cut : Text.splitLast? '@' (credentials ++ '@' :: tail) = some (credentials, tail) :=
    Text.splitLast?_eq_some_iff.mpr ⟨rfl, last⟩
  simp only [veilLine, cut]
  cases veilCredentials? credentials <;> rfl

/-- The veiled text shows only its ends. -/
theorem veiled_eq {left right : List Char} (first : left.head? = right.head?)
    (last : left.getLast? = right.getLast?) : veiled left = veiled right := by
  rw [veiled, veiled, first, last]

theorem colon_not_mem_dropLast {text : List Char} (absent : ':' ∉ text) : ':' ∉ text.dropLast :=
  fun member => absent (List.dropLast_subset text member)

/-- A line without a further at sign behind the password. -/
theorem veilLine_password (inUser : ':' ∉ user) (inPassword : ':' ∉ password)
    (nonempty : password ≠ []) (last : '@' ∉ rest) :
    veilLine (user ++ ':' :: password ++ '@' :: rest) =
      if 2 ≤ user.length ∧ 2 ≤ password.length then
        veiled user ++ ':' :: veiled password ++ '@' :: rest
      else user ++ ':' :: password ++ '@' :: rest := by
  rw [veilLine_last last]
  by_cases long : 2 ≤ password.length
  · rw [veilCredentials?_colon long (colon_not_mem_dropLast (colon_not_mem_dropLast inPassword))]
    by_cases both : 2 ≤ user.length <;> simp [both, long]
  · obtain ⟨c, rfl⟩ : ∃ c, password = [c] := by
      match password, nonempty with
      | [c], _ => exact ⟨c, rfl⟩
      | _ :: _ :: _, _ => exact absurd (by simp) long
    have none : ':' ∉ (user ++ ':' :: [c]).dropLast.dropLast := by simpa using inUser
    simp [veilCredentials?_of_no_colon none]

/-- A line with a further at sign, but no colon before it that would count: all up to the last at
sign is taken for the password. -/
theorem veilLine_at {more tail : List Char} (inPassword : ':' ∉ password)
    (nonempty : password ≠ []) (last : '@' ∉ tail) (noColon : ':' ∉ more.dropLast.dropLast) :
    veilLine (user ++ ':' :: (password ++ '@' :: more) ++ '@' :: tail) =
      if 2 ≤ user.length then
        veiled user ++ ':' :: veiled (password ++ '@' :: more) ++ '@' :: tail
      else user ++ ':' :: (password ++ '@' :: more) ++ '@' :: tail := by
  have long : 2 ≤ (password ++ '@' :: more).length := by
    have := List.length_pos_iff.mpr nonempty
    simp only [List.length_append, List.length_cons]
    omega
  have none : ':' ∉ (password ++ '@' :: more).dropLast.dropLast := by
    match more with
    | [] => simpa using colon_not_mem_dropLast inPassword
    | [_] => simpa using inPassword
    | a :: b :: more =>
      have shape : (password ++ '@' :: a :: b :: more).dropLast.dropLast =
          password ++ '@' :: (a :: b :: more).dropLast.dropLast := by
        simp [List.dropLast_append_of_ne_nil]
      rw [shape]
      simp only [List.mem_append, List.mem_cons, not_or]
      exact ⟨inPassword, by decide, noColon⟩
  rw [veilLine_last last, veilCredentials?_colon long none]
  by_cases both : 2 ≤ user.length <;> simp [both]

/-- A line with a colon that counts behind the password. -/
theorem veilLine_beyond {after tail : List Char} (long : 2 ≤ after.length)
    (noColon : ':' ∉ after.dropLast.dropLast) (last : '@' ∉ tail) (front : 2 ≤ user.length) :
    veilLine (user ++ ':' :: after ++ '@' :: tail) =
      veiled user ++ ':' :: veiled after ++ '@' :: tail := by
  rw [veilLine_last last, veilCredentials?_colon long noColon, if_pos front, Option.getD_some]

/-- The last colon that has two characters after it, if there is any. -/
theorem exists_last_colon {more : List Char} (colon : ':' ∈ more.dropLast.dropLast) :
    ∃ before after, more = before ++ ':' :: after ∧ 2 ≤ after.length ∧
      ':' ∉ after.dropLast.dropLast := by
  obtain ⟨back, rfl⟩ : ∃ back : List Char, more = back.reverse := ⟨more.reverse, by simp⟩
  match back with
  | [] => simp at colon
  | [_] => simp at colon
  | z :: y :: front =>
    have inside : ':' ∈ front := by simpa using colon
    obtain ⟨gap, before, rfl, absent⟩ := List.eq_append_cons_of_mem inside
    exact ⟨before.reverse, gap.reverse ++ [y, z], by simp, by simp, by simpa using absent⟩

theorem colon_mem_dropLast {before after : List Char} (long : 2 ≤ after.length) :
    ':' ∈ (before ++ ':' :: after).dropLast.dropLast := by
  obtain ⟨back, rfl⟩ : ∃ back : List Char, after = back.reverse := ⟨after.reverse, by simp⟩
  match back with
  | [] => simp at long
  | [_] => simp at long
  | z :: y :: gap =>
    have shape : before ++ ':' :: (z :: y :: gap).reverse =
        (before ++ ':' :: gap.reverse) ++ [y] ++ [z] := by simp
    rw [shape, List.dropLast_concat, List.dropLast_concat]
    simp

theorem prefix_of_last_at {front more tail back : List Char} (last : '@' ∉ tail)
    (same : front ++ '@' :: back = more ++ '@' :: tail) : front <+: more := by
  rcases List.append_eq_append_iff.mp same with ⟨gap, rfl, _⟩ | ⟨gap, rfl, split⟩
  · exact List.prefix_append front gap
  · cases gap with
    | nil => simp
    | cons c gap =>
      obtain ⟨rfl, rfl⟩ := List.cons.inj split
      exact absurd (by simp) last

theorem not_veilsAlone {more tail : List Char} (last : '@' ∉ tail)
    (noColon : ':' ∉ more.dropLast.dropLast) : ¬ VeilsAlone (more ++ '@' :: tail) := by
  rintro ⟨before, after, back, split, long⟩
  obtain ⟨gap, rfl⟩ := prefix_of_last_at last split.symm
  rw [List.append_assoc, List.cons_append] at noColon
  exact noColon (colon_mem_dropLast (by simp only [List.length_append]; omega))

/-- A password of one character is shown, which no veiled one looks like. -/
theorem veiled_ne_shown (nonempty : password ≠ []) (c : Char) :
    veiled user ++ ':' :: veiled password ++ '@' :: rest ≠ other ++ ':' :: [c] ++ '@' :: rest := by
  intro same
  have credentials : ((veiled user ++ ':' :: password.head?.toList) ++ veil) ++
      [password.getLast nonempty] = (other ++ [':']) ++ [c] := by
    have cut := List.append_cancel_right same
    simpa [veiled, List.getLast?_eq_some_getLast nonempty] using cut
  have before := congrArg List.getLast? (List.append_inj' credentials rfl).1
  rw [List.getLast?_append] at before
  simp [veil] at before

/-- Two lines that differ in a password with the same ends are masked alike exactly when the
passwords are the same or nothing but their ends is shown. -/
theorem veilLine_eq_iff (inUser : ':' ∉ user) (inPassword : ':' ∉ password) (inOther : ':' ∉ other)
    (nonempty : password ≠ []) (otherNonempty : other ≠ []) (first : password.head? = other.head?)
    (last : password.getLast? = other.getLast?) :
    veilLine (user ++ ':' :: password ++ '@' :: rest) =
        veilLine (user ++ ':' :: other ++ '@' :: rest) ↔
      password = other ∨ Hides user password other rest := by
  by_cases further : '@' ∈ rest
  · obtain ⟨more, tail, rfl, lastAt⟩ := Text.exists_last_mark further
    have regroup (secret : List Char) : user ++ ':' :: secret ++ '@' :: (more ++ '@' :: tail) =
        user ++ ':' :: (secret ++ '@' :: more) ++ '@' :: tail := by simp
    by_cases colon : ':' ∈ more.dropLast.dropLast
    · obtain ⟨before, after, rfl, long, absent⟩ := exists_last_colon colon
      have alone : VeilsAlone (before ++ ':' :: after ++ '@' :: tail) :=
        ⟨before, after, tail, rfl, long⟩
      have shift (secret : List Char) :
          user ++ ':' :: secret ++ '@' :: (before ++ ':' :: after ++ '@' :: tail) =
            (user ++ ':' :: secret ++ '@' :: before) ++ ':' :: after ++ '@' :: tail := by simp
      have front (secret : List Char) : 2 ≤ (user ++ ':' :: secret ++ '@' :: before).length := by
        simp only [List.length_append, List.length_cons]
        omega
      have alike : veiled (user ++ ':' :: password ++ '@' :: before) =
          veiled (user ++ ':' :: other ++ '@' :: before) :=
        veiled_eq (by cases user <;> rfl) (by simp [List.getLast?_append, List.getLast?_cons])
      rw [shift, shift, veilLine_beyond long absent lastAt (front password),
        veilLine_beyond long absent lastAt (front other), alike]
      exact iff_of_true rfl (.inr (.inl alone))
    · have alike : veiled (password ++ '@' :: more) = veiled (other ++ '@' :: more) := by
        refine veiled_eq ?_ (by simp [List.getLast?_append, List.getLast?_cons])
        rw [List.head?_append, List.head?_append, first]
      have hides : Hides user password other (more ++ '@' :: tail) ↔ 2 ≤ user.length := by
        simp [Hides, not_veilsAlone lastAt colon]
      rw [hides, regroup, regroup, veilLine_at inPassword nonempty lastAt colon,
        veilLine_at inOther otherNonempty lastAt colon]
      by_cases long : 2 ≤ user.length
      · simp [long, alike]
      · simp [long]
  · have hides : Hides user password other rest ↔
        2 ≤ user.length ∧ 2 ≤ password.length ∧ 2 ≤ other.length := by
      have notAlone : ¬ VeilsAlone rest := by
        rintro ⟨before, after, tail, rfl, _⟩
        exact further (by simp)
      simp [Hides, notAlone, further]
    rw [hides, veilLine_password inUser inPassword nonempty further,
      veilLine_password inUser inOther otherNonempty further]
    have shown {secret : List Char} (nonempty : secret ≠ []) (short : ¬ 2 ≤ secret.length) :
        ∃ c, secret = [c] := by
      match secret, nonempty with
      | [c], _ => exact ⟨c, rfl⟩
      | _ :: _ :: _, _ => exact absurd (by simp) short
    by_cases front : 2 ≤ user.length
    · by_cases long : 2 ≤ password.length <;> by_cases otherLong : 2 ≤ other.length
      · simp [front, long, otherLong, veiled_eq first last]
      · obtain ⟨c, rfl⟩ := shown otherNonempty otherLong
        have different : password ≠ [c] := by
          rintro rfl
          exact otherLong long
        rw [if_pos ⟨front, long⟩, if_neg fun both => otherLong both.2]
        exact iff_of_false (veiled_ne_shown nonempty c) (by simp [different])
      · obtain ⟨c, rfl⟩ := shown nonempty long
        have different : [c] ≠ other := by
          rintro rfl
          exact long otherLong
        rw [if_neg fun both => long both.2, if_pos ⟨front, otherLong⟩]
        exact iff_of_false (veiled_ne_shown otherNonempty c).symm (by simp [different])
      · simp [long, otherLong]
    · simp [front]

def lastLine (text : List Char) : List Char :=
  text.rtakeWhile (· != '\n')

def firstLine (text : List Char) : List Char :=
  text.takeWhile (· != '\n')

theorem veilLines_append (front back : List Char) :
    veilLines (front ++ '\n' :: back) = veilLines front ++ '\n' :: veilLines back := by
  have nonempty (text : List Char) : (text.splitOn '\n').map veilLine ≠ [] := by
    simp [List.splitOn_ne_nil]
  simp only [veilLines, Text.splitAll_eq_splitOn, List.splitOn_append_cons_self, List.map_append]
  exact Text.joinAll_append '\n' (nonempty front) (nonempty back)

theorem veilLines_line (oneLine : '\n' ∉ line) : veilLines line = veilLine line := by
  rw [veilLines, Text.splitAll_eq_splitOn, List.splitOn_eq_singleton oneLine]
  rfl

theorem lastLine_cases (text : List Char) :
    text = lastLine text ∨ ∃ before, text = before ++ '\n' :: lastLine text := by
  have whole : text.rdropWhile (· != '\n') ++ lastLine text = text :=
    List.rdropWhile_append_rtakeWhile
  rcases List.eq_nil_or_concat' (text.rdropWhile (· != '\n')) with empty | ⟨before, c, ended⟩
  · exact .inl (by simpa [empty] using whole.symm)
  · have nonempty : text.rdropWhile (· != '\n') ≠ [] := by simp [ended]
    have stopped := List.rdropWhile_last_not (· != '\n') text nonempty
    obtain rfl : c = '\n' := by simpa [ended] using stopped
    exact .inr ⟨before, by simpa [ended] using whole.symm⟩

theorem firstLine_cases (text : List Char) :
    text = firstLine text ∨ ∃ after, text = firstLine text ++ '\n' :: after := by
  have whole : firstLine text ++ text.dropWhile (· != '\n') = text :=
    List.takeWhile_append_dropWhile
  cases dropped : text.dropWhile (· != '\n') with
  | nil => exact .inl (by simpa [dropped] using whole.symm)
  | cons c after =>
    have stopped := List.head?_dropWhile_not (· != '\n') text
    rw [dropped] at stopped
    obtain rfl : c = '\n' := by simpa using stopped
    exact .inr ⟨after, by simpa [dropped] using whole.symm⟩

theorem newline_not_mem_lastLine (text : List Char) : '\n' ∉ lastLine text := fun member => by
  simpa using List.mem_rtakeWhile_imp member

theorem newline_not_mem_firstLine (text : List Char) : '\n' ∉ firstLine text := fun member => by
  simpa using List.mem_takeWhile_imp member

/-- Only the line that a text stands on depends on it. -/
theorem veilLines_around (front back : List Char) : ∃ before after, ∀ line, '\n' ∉ line →
    veilLines (front ++ line ++ back) =
      before ++ veilLine (lastLine front ++ line ++ firstLine back) ++ after := by
  have around {line : List Char} (oneLine : '\n' ∉ line) :
      '\n' ∉ lastLine front ++ line ++ firstLine back := by
    simp [oneLine, newline_not_mem_lastLine, newline_not_mem_firstLine]
  obtain ⟨after, ended⟩ : ∃ after, ∀ line, '\n' ∉ line →
      veilLines (lastLine front ++ line ++ back) =
        veilLine (lastLine front ++ line ++ firstLine back) ++ after := by
    rcases firstLine_cases back with whole | ⟨rest, whole⟩
    · refine ⟨[], fun line oneLine => ?_⟩
      rw [← whole] at around ⊢
      rw [veilLines_line (around oneLine), List.append_nil]
    · refine ⟨'\n' :: veilLines rest, fun line oneLine => ?_⟩
      conv =>
        lhs
        rw [whole, ← List.append_assoc, veilLines_append, veilLines_line (around oneLine)]
  rcases lastLine_cases front with whole | ⟨begun, whole⟩
  · refine ⟨[], after, fun line oneLine => ?_⟩
    rw [List.nil_append, ← ended line oneLine, ← whole]
  · refine ⟨veilLines begun ++ ['\n'], after, fun line oneLine => ?_⟩
    have split : front ++ line ++ back = begun ++ '\n' :: (lastLine front ++ line ++ back) := by
      conv => lhs; rw [whole]
      simp
    rw [split, veilLines_append, ended line oneLine]
    simp

/-- Two connection strings that differ in a password with the same first and the same last character
are masked alike exactly when the passwords are the same, or a further colon on the line veils them,
or the user has two characters on the line and either a further at sign follows on it or both
passwords have two characters. -/
theorem mask_eq_iff {user password other rest : String} (inUser : ':' ∉ user.toList)
    (inPassword : ∀ c ∈ password.toList, c ≠ ':' ∧ c ≠ '\n')
    (inOther : ∀ c ∈ other.toList, c ≠ ':' ∧ c ≠ '\n')
    (nonempty : password ≠ "") (otherNonempty : other ≠ "")
    (first : password.toList.head? = other.toList.head?)
    (last : password.toList.getLast? = other.toList.getLast?) :
    mask .mysql (user ++ ":" ++ password ++ "@" ++ rest) =
        mask .mysql (user ++ ":" ++ other ++ "@" ++ rest) ↔
      password = other ∨ Hides (lastLine user.toList) password.toList other.toList
        (firstLine rest.toList) := by
  obtain ⟨before, after, around⟩ := veilLines_around user.toList rest.toList
  have masked (secret : String) (oneLine : ∀ c ∈ secret.toList, c ≠ ':' ∧ c ≠ '\n') :
      mask .mysql (user ++ ":" ++ secret ++ "@" ++ rest) = String.ofList (before ++
        veilLine (lastLine user.toList ++ ':' :: secret.toList ++ '@' :: firstLine rest.toList) ++
          after) := by
    have whole : (user ++ ":" ++ secret ++ "@" ++ rest).toList =
        user.toList ++ (':' :: secret.toList ++ ['@']) ++ rest.toList := by simp
    have noBreak : '\n' ∉ ':' :: secret.toList ++ ['@'] := by
      simpa using fun member => (oneLine '\n' member).2 rfl
    rw [mask, whole, around _ noBreak]
    simp
  have inLine : ':' ∉ lastLine user.toList := fun member =>
    inUser (List.rtakeWhile_suffix _ _ |>.subset member)
  have nonempty' : password.toList ≠ [] := by simpa using nonempty
  have otherNonempty' : other.toList ≠ [] := by simpa using otherNonempty
  rw [masked password inPassword, masked other inOther, String.ofList_inj, List.append_left_inj,
    List.append_right_inj, ← String.toList_inj]
  exact veilLine_eq_iff inLine (fun member => (inPassword ':' member).1 rfl)
    (fun member => (inOther ':' member).1 rfl) nonempty' otherNonempty' first last

/-- Two passwords of `root` that are masked alike. -/
theorem rootPasswords_masked_alike :
    (∀ c ∈ "secret".toList, c ≠ ':' ∧ c ≠ '\n') ∧
      mask .mysql ("root" ++ ":" ++ "secret" ++ "@" ++ "tcp(db:3306)/app") =
        mask .mysql ("root" ++ ":" ++ "sunset" ++ "@" ++ "tcp(db:3306)/app") := by
  have plain : ∀ c ∈ "secret".toList, c ≠ ':' ∧ c ≠ '\n' := by simp
  have otherPlain : ∀ c ∈ "sunset".toList, c ≠ ':' ∧ c ≠ '\n' := by simp
  have hidden : Hides (lastLine "root".toList) "secret".toList "sunset".toList
      (firstLine "tcp(db:3306)/app".toList) :=
    .inr ⟨by decide +kernel, .inr ⟨by decide +kernel, by decide +kernel⟩⟩
  exact ⟨plain, (mask_eq_iff (by decide +kernel) plain otherPlain (by decide) (by decide)
    (by decide +kernel) (by decide +kernel)).mpr (.inr hidden)⟩

/-- The password of a user with a name of one character is shown. -/
theorem shortUser_shows_password :
    mask .mysql ("a" ++ ":" ++ "secret" ++ "@" ++ "tcp(db:3306)/app") =
      "a:secret@tcp(db:3306)/app" ∧
      mask .mysql ("a" ++ ":" ++ "secret" ++ "@" ++ "tcp(db:3306)/app") ≠
        mask .mysql ("a" ++ ":" ++ "sunset" ++ "@" ++ "tcp(db:3306)/app") := by
  decide +kernel

end SqlMigrations.Dsn
