import Mathlib.Data.List.Basic
import SqlMigrations.Text.Utf8

namespace SqlMigrations.Text.Utf8

variable {byte : UInt8}

theorem encode_cons (c : Char) (text : List Char) :
    encode (c :: text) = String.utf8EncodeChar c ++ encode text :=
  rfl

theorem encode_append (front back : List Char) :
    encode (front ++ back) = encode front ++ encode back :=
  List.flatMap_append

theorem decodeLenient_ne_nil {bytes : List UInt8} (nonempty : bytes ≠ []) :
    decodeLenient bytes ≠ [] := by
  rw [decodeLenient, ne_eq, List.map_eq_nil_iff]
  fun_cases pieces bytes <;> first | contradiction | exact List.cons_ne_nil _ _

theorem encode_ne_nil {text : List Char} (nonempty : text ≠ []) : encode text ≠ [] := by
  cases text with
  | nil => contradiction
  | cons c text =>
    intro empty
    have none : String.utf8EncodeChar c = [] := (List.append_eq_nil_iff.mp empty).1
    have positive := String.length_utf8EncodeChar c
    rw [none] at positive
    exact absurd positive (Nat.ne_of_lt c.utf8Size_pos)

theorem not_isTail (ascii : byte < 0x80) : isTail byte = false := by
  simp only [isTail, Bool.and_eq_false_iff, decide_eq_false_iff_not, UInt8.not_le]
  exact .inl ascii

theorem not_followsOfThree (ascii : byte < 0x80) (first : UInt8) :
    followsOfThree first byte = false := by
  have below : byte < 0xA0 := UInt8.lt_trans ascii (by decide)
  simp [followsOfThree, not_isTail ascii, UInt8.not_le.mpr ascii, UInt8.not_le.mpr below]

theorem not_followsOfFour (ascii : byte < 0x80) (first : UInt8) :
    followsOfFour first byte = false := by
  have below : byte < 0x90 := UInt8.lt_trans ascii (by decide)
  simp [followsOfFour, not_isTail ascii, UInt8.not_le.mpr ascii, UInt8.not_le.mpr below]

theorem pieces_of_one (ascii : byte < 0x80) (rest : List UInt8) :
    pieces (byte :: rest) = .char (Char.ofNat byte.toNat) :: pieces rest := by
  rw [pieces.eq_def]
  simp only [if_pos ascii]

theorem decodeLenient_append (ascii : byte < 0x80) (front rest : List UInt8) :
    decodeLenient (front ++ byte :: rest) =
      decodeLenient front ++ Char.ofNat byte.toNat :: decodeLenient rest := by
  have noTail := not_isTail ascii
  have noThree := not_followsOfThree ascii
  have noFour := not_followsOfFour ascii
  have start := pieces_of_one ascii rest
  simp only [decodeLenient]
  -- a character that lacks bytes at the end of the front is malformed up to the ASCII byte
  fun_induction pieces front
  case case1 => simp [start, Piece.lenient]
  all_goals
    simp only [List.cons_append] at *
    rw [pieces.eq_def]
    simp only [*, List.nil_append, List.map_cons, List.map_nil, List.cons_append, Piece.lenient,
      if_true, if_false, Bool.false_eq_true]

theorem val_ofNat {code : Nat} (valid : code.isValidChar) : (Char.ofNat code).val.toNat = code := by
  rw [Char.ofNat, dif_pos valid]
  rfl

theorem encodeChar_of_one {a : UInt8} (ascii : a < 0x80) :
    String.utf8EncodeChar (Char.ofNat a.toNat) = [a] := by
  have bound : a.toNat < 128 := by simpa [UInt8.lt_iff_toNat_lt] using ascii
  rw [String.utf8EncodeChar, val_ofNat (.inl (by omega)), if_pos (by omega), UInt8.ofNat_toNat]

theorem isTail_iff {byte : UInt8} : isTail byte = true ↔ 128 ≤ byte.toNat ∧ byte.toNat ≤ 191 := by
  simp [isTail, UInt8.le_iff_toNat_le]

/-- A continuation byte is its payload with a mark. -/
theorem tail_of_payload {byte : UInt8} {code : Nat} (tail : isTail byte = true)
    (same : code % 64 = payload byte) : UInt8.ofNat (code % 64 + 128) = byte := by
  obtain ⟨low, high⟩ := isTail_iff.mp tail
  have value : code % 64 + 128 = byte.toNat := by
    rw [same, payload]
    omega
  rw [value, UInt8.ofNat_toNat]

theorem payload_lt (byte : UInt8) : payload byte < 64 :=
  Nat.mod_lt _ (by decide)

theorem encodeChar_of_two {a b : UInt8} (first : (0xC2 ≤ a && a ≤ 0xDF) = true)
    (second : isTail b = true) :
    String.utf8EncodeChar (Char.ofNat (a.toNat % 32 * 64 + payload b)) = [a, b] := by
  obtain ⟨low, high⟩ : 194 ≤ a.toNat ∧ a.toNat ≤ 223 := by
    simpa [UInt8.le_iff_toNat_le] using first
  have small := payload_lt b
  have lead : (a.toNat % 32 * 64 + payload b) / 64 % 32 + 192 = a.toNat := by omega
  rw [String.utf8EncodeChar, val_ofNat (.inl (by omega)), if_neg (by omega), if_pos (by omega),
    lead,
    UInt8.ofNat_toNat, tail_of_payload second (by omega)]

/-- What may follow a first byte, with a bound for the least and one for the greatest of them. -/
theorem bounds_of_follows {first second least greatest low high : UInt8} (apart : least ≠ greatest)
    (above : 0x80 ≤ low) (below : high ≤ 0xBF)
    (follows : (if first = least then low ≤ second && second ≤ 0xBF
      else if first = greatest then 0x80 ≤ second && second ≤ high else isTail second) = true) :
    isTail second = true ∧ (first = least → low ≤ second) ∧ (first = greatest → second ≤ high) := by
  by_cases atLeast : first = least
  · rw [if_pos atLeast, Bool.and_eq_true, decide_eq_true_eq, decide_eq_true_eq] at follows
    have from80 := UInt8.le_trans above follows.1
    refine ⟨by simp [isTail, from80, follows.2], fun _ => follows.1, fun atGreatest => ?_⟩
    exact absurd (atLeast.symm.trans atGreatest) apart
  · rw [if_neg atLeast] at follows
    by_cases atGreatest : first = greatest
    · rw [if_pos atGreatest, Bool.and_eq_true, decide_eq_true_eq, decide_eq_true_eq] at follows
      have toBF := UInt8.le_trans follows.2 below
      exact ⟨by simp [isTail, toBF, follows.1], fun same => absurd same atLeast, fun _ => follows.2⟩
    · rw [if_neg atGreatest] at follows
      exact ⟨follows, fun same => absurd same atLeast, fun same => absurd same atGreatest⟩

theorem encodeChar_of_three {a b c : UInt8} (first : (0xE0 ≤ a && a ≤ 0xEF) = true)
    (second : followsOfThree a b = true) (third : isTail c = true) :
    String.utf8EncodeChar (Char.ofNat (a.toNat % 16 * 4096 + payload b * 64 + payload c)) =
      [a, b, c] := by
  obtain ⟨low, high⟩ : 224 ≤ a.toNat ∧ a.toNat ≤ 239 := by
    simpa [UInt8.le_iff_toNat_le] using first
  obtain ⟨tail, least, greatest⟩ := bounds_of_follows (by decide) (by decide) (by decide) second
  simp only [← UInt8.toNat_inj, UInt8.le_iff_toNat_le, UInt8.reduceToNat] at least greatest
  obtain ⟨from128, to191⟩ := isTail_iff.mp tail
  have small := payload_lt c
  have middle : payload b = b.toNat - 128 := by
    rw [payload]
    omega
  have lead : (a.toNat % 16 * 4096 + payload b * 64 + payload c) / 4096 % 16 + 224 = a.toNat := by
    omega
  have next : (a.toNat % 16 * 4096 + payload b * 64 + payload c) / 64 % 64 = payload b := by omega
  have last : (a.toNat % 16 * 4096 + payload b * 64 + payload c) % 64 = payload c := by omega
  have valid : (a.toNat % 16 * 4096 + payload b * 64 + payload c).isValidChar := by
    rw [Nat.isValidChar]
    omega
  rw [String.utf8EncodeChar, val_ofNat valid, if_neg (by omega), if_neg (by omega),
    if_pos (by omega), lead, UInt8.ofNat_toNat, tail_of_payload tail next,
    tail_of_payload third last]

theorem encodeChar_of_four {a b c d : UInt8} (first : (0xF0 ≤ a && a ≤ 0xF4) = true)
    (second : followsOfFour a b = true) (third : isTail c = true) (fourth : isTail d = true) :
    String.utf8EncodeChar (Char.ofNat
      (a.toNat % 8 * 262144 + payload b * 4096 + payload c * 64 + payload d)) = [a, b, c, d] := by
  obtain ⟨low, high⟩ : 240 ≤ a.toNat ∧ a.toNat ≤ 244 := by
    simpa [UInt8.le_iff_toNat_le] using first
  obtain ⟨tail, least, greatest⟩ := bounds_of_follows (by decide) (by decide) (by decide) second
  simp only [← UInt8.toNat_inj, UInt8.le_iff_toNat_le, UInt8.reduceToNat] at least greatest
  obtain ⟨from128, to191⟩ := isTail_iff.mp tail
  have smallThird := payload_lt c
  have small := payload_lt d
  have middle : payload b = b.toNat - 128 := by
    rw [payload]
    omega
  generalize number : a.toNat % 8 * 262144 + payload b * 4096 + payload c * 64 + payload d = code
  have lead : code / 262144 % 8 + 240 = a.toNat := by omega
  have next : code / 4096 % 64 = payload b := by omega
  have later : code / 64 % 64 = payload c := by omega
  have last : code % 64 = payload d := by omega
  have valid : code.isValidChar := by
    rw [Nat.isValidChar]
    omega
  rw [String.utf8EncodeChar, val_ofNat valid, if_neg (by omega), if_neg (by omega),
    if_neg (by omega), lead, UInt8.ofNat_toNat, tail_of_payload tail next,
    tail_of_payload third later, tail_of_payload fourth last]

theorem strictFrom_char {index : Nat} {c : Char} {rest : List Piece} {text : List Char}
    (read : strictFrom index (.char c :: rest) = .ok text) :
    ∃ more, text = c :: more ∧ strictFrom (index + c.utf8Size) rest = .ok more := by
  rw [strictFrom] at read
  cases later : strictFrom (index + c.utf8Size) rest with
  | error fault => simp [later, Except.map] at read
  | ok more =>
    simp only [later, Except.map, Except.ok.injEq] at read
    exact ⟨more, read.symm, rfl⟩

/-- Strict reading loses nothing: the text is encoded by the bytes that were read. -/
theorem encode_of_decode {bytes : List UInt8} {text : List Char} (read : decode bytes = .ok text) :
    encode text = bytes := by
  have step {index : Nat} {c : Char} {rest : List Piece} {text : List Char} {later : List UInt8}
      (read : strictFrom index (.char c :: rest) = .ok text)
      (induction : ∀ index text, strictFrom index rest = .ok text → encode text = later) :
      encode text = String.utf8EncodeChar c ++ later := by
    obtain ⟨more, rfl, rest⟩ := strictFrom_char read
    rw [encode, List.flatMap_cons, ← encode, induction _ _ rest]
  rw [decode] at read
  generalize 0 = index at read
  fun_induction pieces bytes generalizing index text with
  | case1 =>
    obtain rfl : [] = text := Except.ok.inj read
    rfl
  | case2 a rest ascii induction =>
    rw [step read (fun _ _ => induction _), encodeChar_of_one ascii, List.singleton_append]
  | case4 a _ first b more second induction =>
    rw [step read (fun _ _ => induction _), encodeChar_of_two first second]
    rfl
  | case8 a _ _ first b second c more third induction =>
    rw [step read (fun _ _ => induction _), encodeChar_of_three first second third]
    rfl
  | case14 a _ _ _ first b second c third d more fourth induction =>
    rw [step read (fun _ _ => induction _), encodeChar_of_four first second third fourth]
    rfl
  | _ => cases read

theorem pieces_of_two {a b : UInt8} (first : (0xC2 ≤ a && a ≤ 0xDF) = true)
    (second : isTail b = true) (rest : List UInt8) :
    pieces (a :: b :: rest) =
      .char (Char.ofNat (a.toNat % 32 * 64 + payload b)) :: pieces rest := by
  have above : ¬ a < 0x80 := by
    simp only [Bool.and_eq_true, decide_eq_true_eq, UInt8.le_iff_toNat_le, UInt8.lt_iff_toNat_lt,
      UInt8.reduceToNat] at first ⊢
    omega
  rw [pieces.eq_def]
  simp only [if_neg above, if_pos first, if_pos second]

theorem pieces_of_three {a b c : UInt8} (first : (0xE0 ≤ a && a ≤ 0xEF) = true)
    (second : followsOfThree a b = true) (third : isTail c = true) (rest : List UInt8) :
    pieces (a :: b :: c :: rest) =
      .char (Char.ofNat (a.toNat % 16 * 4096 + payload b * 64 + payload c)) :: pieces rest := by
  have above : ¬ a < 0x80 ∧ ¬ (0xC2 ≤ a && a ≤ 0xDF) = true := by
    simp only [Bool.and_eq_true, decide_eq_true_eq, UInt8.le_iff_toNat_le, UInt8.lt_iff_toNat_lt,
      UInt8.reduceToNat] at first ⊢
    omega
  rw [pieces.eq_def]
  simp only [if_neg above.1, if_neg above.2, if_pos first, if_pos second, if_pos third]

theorem pieces_of_four {a b c d : UInt8} (first : (0xF0 ≤ a && a ≤ 0xF4) = true)
    (second : followsOfFour a b = true) (third : isTail c = true) (fourth : isTail d = true)
    (rest : List UInt8) :
    pieces (a :: b :: c :: d :: rest) =
      .char (Char.ofNat (a.toNat % 8 * 262144 + payload b * 4096 + payload c * 64 + payload d)) ::
        pieces rest := by
  have above : ¬ a < 0x80 ∧ ¬ (0xC2 ≤ a && a ≤ 0xDF) = true ∧ ¬ (0xE0 ≤ a && a ≤ 0xEF) = true := by
    simp only [Bool.and_eq_true, decide_eq_true_eq, UInt8.le_iff_toNat_le, UInt8.lt_iff_toNat_lt,
      UInt8.reduceToNat] at first ⊢
    omega
  rw [pieces.eq_def]
  simp only [if_neg above.1, if_neg above.2.1, if_neg above.2.2, if_pos first, if_pos second,
    if_pos third, if_pos fourth]

/-- A number between two bytes is the number of a byte between them. -/
theorem between_ofNat (least greatest : UInt8) {code : Nat} (low : least.toNat ≤ code)
    (high : code ≤ greatest.toNat) : (UInt8.ofNat code).toNat = code ∧
      (least ≤ UInt8.ofNat code && UInt8.ofNat code ≤ greatest) = true := by
  have number : (UInt8.ofNat code).toNat = code :=
    UInt8.toNat_ofNat_of_lt' (Nat.lt_of_le_of_lt high greatest.toNat_lt)
  simp [UInt8.le_iff_toNat_le, number, low, high]

/-- The continuation byte of a payload. -/
theorem tail_ofNat (code : Nat) :
    (UInt8.ofNat (code % 64 + 128)).toNat = code % 64 + 128 ∧
      payload (UInt8.ofNat (code % 64 + 128)) = code % 64 ∧
      isTail (UInt8.ofNat (code % 64 + 128)) = true := by
  obtain ⟨number, tail⟩ := between_ofNat 0x80 0xBF (show 128 ≤ code % 64 + 128 by omega)
    (show code % 64 + 128 ≤ 191 by omega)
  refine ⟨number, ?_, tail⟩
  rw [payload, number]
  omega

theorem pieces_encodeChar (c : Char) (rest : List UInt8) :
    pieces (String.utf8EncodeChar c ++ rest) = .char c :: pieces rest := by
  have valid : c.val.toNat.isValidChar := c.valid
  rw [Nat.isValidChar] at valid
  have whole : Char.ofNat c.val.toNat = c := Char.ofNat_toNat c
  conv => rhs; rw [← whole]
  rw [String.utf8EncodeChar]
  generalize c.val.toNat = code at valid
  obtain ⟨_, payload, tail⟩ := tail_ofNat code
  obtain ⟨next, nextPayload, nextTail⟩ := tail_ofNat (code / 64)
  -- one case for each number of bytes; the first of three or four bytes bounds the second one
  split_ifs with one two three
  · have number := (between_ofNat 0 0x7F (Nat.zero_le code) one).1
    have ascii : UInt8.ofNat code < 0x80 := by
      rw [UInt8.lt_iff_toNat_lt, number]
      exact Nat.lt_succ_of_le one
    rw [List.singleton_append, pieces_of_one ascii, number]
  · obtain ⟨number, first⟩ := between_ofNat 0xC2 0xDF (show 194 ≤ code / 64 % 32 + 192 by omega)
      (show code / 64 % 32 + 192 ≤ 223 by omega)
    have total : (code / 64 % 32 + 192) % 32 * 64 + code % 64 = code := by omega
    rw [List.cons_append, List.singleton_append, pieces_of_two first tail, number, payload, total]
  · obtain ⟨number, first⟩ := between_ofNat 0xE0 0xEF (show 224 ≤ code / 4096 % 16 + 224 by omega)
      (show code / 4096 % 16 + 224 ≤ 239 by omega)
    have second : followsOfThree (UInt8.ofNat (code / 4096 % 16 + 224))
        (UInt8.ofNat (code / 64 % 64 + 128)) = true := by
      simp only [followsOfThree, ← UInt8.toNat_inj, UInt8.le_iff_toNat_le, number, next, nextTail,
        UInt8.reduceToNat]
      split_ifs <;> simp <;> omega
    have total : (code / 4096 % 16 + 224) % 16 * 4096 + code / 64 % 64 * 64 + code % 64 = code := by
      omega
    rw [List.cons_append, List.cons_append, List.singleton_append,
      pieces_of_three first second tail, number, nextPayload, payload, total]
  · obtain ⟨number, first⟩ := between_ofNat 0xF0 0xF4 (show 240 ≤ code / 262144 % 8 + 240 by omega)
      (show code / 262144 % 8 + 240 ≤ 244 by omega)
    obtain ⟨far, farPayload, farTail⟩ := tail_ofNat (code / 4096)
    have second : followsOfFour (UInt8.ofNat (code / 262144 % 8 + 240))
        (UInt8.ofNat (code / 4096 % 64 + 128)) = true := by
      simp only [followsOfFour, ← UInt8.toNat_inj, UInt8.le_iff_toNat_le, number, far, farTail,
        UInt8.reduceToNat]
      split_ifs <;> simp <;> omega
    have total : (code / 262144 % 8 + 240) % 8 * 262144 + code / 4096 % 64 * 4096 +
        code / 64 % 64 * 64 + code % 64 = code := by
      omega
    rw [List.cons_append, List.cons_append, List.cons_append, List.singleton_append,
      pieces_of_four first second nextTail tail, number, farPayload, nextPayload, payload, total]

/-- A text is read back from the bytes that encode it. -/
theorem decodeLenient_encode (text : List Char) : decodeLenient (encode text) = text := by
  induction text with
  | nil => simp [encode, decodeLenient, pieces]
  | cons c text induction =>
    have step : decodeLenient (encode (c :: text)) = c :: decodeLenient (encode text) := by
      rw [encode_cons, decodeLenient, pieces_encodeChar]
      rfl
    rw [step, induction]

end SqlMigrations.Text.Utf8
