import SqlMigrations.Proofs.Text.Search
import SqlMigrations.Proofs.Text.Utf8
import SqlMigrations.Text.FormUrl

namespace SqlMigrations.Text.FormUrl

variable {text front back rest : List Char}

theorem cutQuery_append (absent : '?' ∉ front) (query : List Char) :
    cutQuery (front ++ '?' :: query) = (front, query) := by
  rw [cutQuery, splitFirst?_eq_some_iff.mpr ⟨rfl, absent⟩]
  rfl

theorem cutQuery_of_not_mem (absent : '?' ∉ text) : cutQuery text = (text, []) := by
  rw [cutQuery, splitFirst?_of_not_mem absent, Option.getD_none]

theorem mark_not_mem_cutQuery (text : List Char) : '?' ∉ (cutQuery text).1 := by
  rw [cutQuery]
  cases cut : splitFirst? '?' text with
  | none => exact splitFirst?_eq_none_iff.mp cut
  | some parts => exact (splitFirst?_eq_some_iff.mp cut).2

@[simp] theorem decode_nil : decode [] = [] :=
  rfl

theorem decode_append_ampersand (front rest : List Char) :
    decode (front ++ '&' :: rest) = decode front ++ decode rest := by
  simp only [decode, splitAll_eq_splitOn, List.splitOn_append_cons_self, List.filter_append,
    List.map_append]

@[simp] theorem decode_ampersand (rest : List Char) : decode ('&' :: rest) = decode rest :=
  decode_append_ampersand [] rest

theorem decode_append_of_head? (front : List Char) (opens : ∀ c ∈ rest.head?, c = '&') :
    decode (front ++ rest) = decode front ++ decode rest := by
  cases rest with
  | nil => simp
  | cons c rest =>
    obtain rfl : c = '&' := opens c rfl
    rw [decode_append_ampersand, decode_ampersand]

theorem decode_segment (nonempty : text ≠ []) (absent : '&' ∉ text) :
    decode text = [decodeSegment text] := by
  rw [decode, splitAll_eq_splitOn, List.splitOn_eq_singleton absent]
  simp [nonempty]

/-- A percent sign before a question mark, or one digit before it, stands for itself. -/
theorem unescape_percent (plus : UInt8) (rest : List UInt8) :
    unescape plus (0x25 :: 0x3F :: rest) = 0x25 :: unescape plus (0x3F :: rest) ∧
      ∀ digit, unescape plus (0x25 :: digit :: 0x3F :: rest) =
        0x25 :: unescape plus (digit :: 0x3F :: rest) := by
  have noDigit : hexValue? 0x3F = none := rfl
  constructor
  · rw [unescape.eq_def]
    cases rest <;> simp [noDigit]
  · intro digit
    rw [unescape.eq_def]
    cases value : hexValue? digit <;> simp [noDigit, value]

theorem unescape_append (plus : UInt8) (front rest : List UInt8) :
    unescape plus (front ++ 0x3F :: rest) = unescape plus front ++ 0x3F :: unescape plus rest := by
  fun_induction unescape plus front with
  | case1 =>
    rw [List.nil_append, unescape.eq_def]
    simp
  | case2 bytes induction =>
    rw [List.cons_append, unescape.eq_def]
    simp [induction]
  | case3 high low more h l highValue lowValue _ induction =>
    rw [List.cons_append, List.cons_append, List.cons_append, unescape.eq_def]
    simp [highValue, lowValue, induction]
  | case4 high low more noHex _ induction =>
    rw [List.cons_append, List.cons_append, List.cons_append, unescape.eq_def]
    simp_all
  | case5 short few _ induction =>
    match short with
    | [] => simpa [(unescape_percent plus rest).1] using induction
    | [digit] => simpa [(unescape_percent plus rest).2] using induction
    | high :: low :: more => exact (few high low more rfl).elim
  | case6 byte bytes noPlus noPercent induction =>
    rw [List.cons_append, unescape.eq_def]
    simp [noPlus, noPercent, induction]

theorem unescape_ne_nil (plus : UInt8) {bytes : List UInt8} (nonempty : bytes ≠ []) :
    unescape plus bytes ≠ [] := by
  fun_cases unescape plus bytes <;> first | contradiction | exact List.cons_ne_nil _ _

theorem decodeComponent_append (front rest : List Char) :
    decodeComponent (front ++ '?' :: rest) =
      decodeComponent front ++ '?' :: decodeComponent rest := by
  have marked : Utf8.encode (front ++ '?' :: rest) =
      Utf8.encode front ++ 0x3F :: Utf8.encode rest := Utf8.encode_append ..
  rw [decodeComponent, marked, unescape_append, Utf8.decodeLenient_append (by decide)]
  rfl

theorem decodeComponent_eq_nil (empty : decodeComponent text = []) : text = [] := by
  by_contra nonempty
  exact Utf8.decodeLenient_ne_nil (unescape_ne_nil _ (Utf8.encode_ne_nil nonempty)) empty

@[simp] theorem decodeComponent_nil : decodeComponent [] = [] := by
  simp [decodeComponent, Utf8.encode, unescape, Utf8.decodeLenient, Utf8.pieces]

/-- More text behind a question mark is more of the component. -/
theorem decodeComponent_longer
    (same : decodeComponent (front ++ '?' :: rest) = decodeComponent (front ++ ['?'])) :
    rest = [] := by
  rw [decodeComponent_append, decodeComponent_append] at same
  rw [decodeComponent_nil, List.append_right_inj, List.cons.injEq] at same
  exact decodeComponent_eq_nil same.2

theorem decodeSegment_of_equals {key value : List Char} (absent : '=' ∉ key) :
    decodeSegment (key ++ '=' :: value) =
      (String.ofList (decodeComponent key), String.ofList (decodeComponent value)) := by
  have cut : splitFirst? '=' (key ++ '=' :: value) = some (key, value) :=
    splitFirst?_eq_some_iff.mpr ⟨rfl, absent⟩
  rw [decodeSegment, cut]

theorem decodeSegment_of_not_mem (absent : '=' ∉ text) :
    decodeSegment text = (String.ofList (decodeComponent text), "") := by
  rw [decodeSegment, splitFirst?_of_not_mem absent]

theorem mem_cases_equals (text : List Char) :
    '=' ∉ text ∨ ∃ key value, text = key ++ '=' :: value ∧ '=' ∉ key := by
  by_cases member : '=' ∈ text
  · obtain ⟨key, value, split, absent⟩ := List.eq_append_cons_of_mem member
    exact .inr ⟨key, value, split, absent⟩
  · exact .inl member

/-- Put together with the segment before a question mark, a segment changes the pair there, unless
it is a lone equals sign. -/
theorem decodeSegment_joined (nonempty : back ≠ [])
    (same : decodeSegment (front ++ '?' :: back) = decodeSegment (front ++ ['?'])) :
    decodeSegment back = ("", "") := by
  rcases mem_cases_equals front with plain | ⟨key, value, rfl, absent⟩
  · have before : '=' ∉ front ++ ['?'] := by simp [plain]
    rw [decodeSegment_of_not_mem before] at same
    rcases mem_cases_equals back with plainBack | ⟨key, value, rfl, absent⟩
    · have whole : '=' ∉ front ++ '?' :: back := by simp [plain, plainBack]
      rw [decodeSegment_of_not_mem whole, Prod.mk.injEq, String.ofList_inj] at same
      exact absurd (decodeComponent_longer same.1) nonempty
    · have inKey : '=' ∉ front ++ '?' :: key := by simp [plain, absent]
      have regroup : front ++ '?' :: (key ++ '=' :: value) =
          (front ++ '?' :: key) ++ '=' :: value := by simp
      rw [regroup, decodeSegment_of_equals inKey, Prod.mk.injEq, String.ofList_inj] at same
      rw [decodeSegment_of_equals absent, same.2, decodeComponent_longer same.1,
        decodeComponent_nil]
  · simp only [List.append_assoc, List.cons_append] at same
    rw [decodeSegment_of_equals absent, decodeSegment_of_equals absent, Prod.mk.injEq,
      String.ofList_inj, String.ofList_inj] at same
    exact absurd (decodeComponent_longer same.2) nonempty

/-- Whatever follows a text takes part in its last segment only. -/
theorem exists_last_segment (text : List Char) :
    ∃ pairs last, '&' ∉ last ∧ ∀ rest, decode (text ++ rest) = pairs ++ decode (last ++ rest) := by
  by_cases member : '&' ∈ text
  · obtain ⟨front, last, rfl, absent⟩ := exists_last_mark member
    refine ⟨decode front, last, absent, fun rest => ?_⟩
    rw [List.append_assoc, List.cons_append, decode_append_ampersand]
  · exact ⟨[], text, member, fun rest => rfl⟩

/-- Whatever precedes a text takes part in its first segment only. -/
theorem exists_first_segment {c : Char} (plain : c ≠ '&') (text : List Char) :
    ∃ first pairs, '&' ∉ c :: first ∧
      ∀ front, decode (front ++ c :: text) = decode (front ++ c :: first) ++ pairs := by
  by_cases member : '&' ∈ text
  · obtain ⟨first, rest, rfl, absent⟩ := List.eq_append_cons_of_mem member
    refine ⟨first, decode rest, by simp [plain.symm, absent], fun front => ?_⟩
    rw [← decode_append_ampersand, List.append_assoc, List.cons_append]
  · exact ⟨text, [], by simp [plain.symm, member], fun front => (List.append_nil _).symm⟩

theorem utf8_hexDigit {value : Nat} (small : value < 16) : ∃ digit,
    String.utf8EncodeChar (hexDigit value) = [digit] ∧
      hexValue? digit = some (UInt8.ofNat value) := by
  have table : ∀ value < 16, (String.utf8EncodeChar (hexDigit value)).map hexValue? =
      [some (UInt8.ofNat value)] := by decide
  obtain ⟨digit, bytes, read⟩ := List.map_eq_singleton_iff.mp (table value small)
  exact ⟨digit, bytes, read⟩

/-- A byte that is written as it is has no meaning of its own in the notation. -/
theorem isPlain_apart {byte : UInt8} (plain : isPlain byte = true) :
    byte < 0x80 ∧ byte ≠ 0x25 ∧ byte ≠ 0x26 ∧ byte ≠ 0x2B ∧ byte ≠ 0x3D := by
  simp only [isPlain, isAlphanumeric, Bool.or_eq_true, Bool.and_eq_true, decide_eq_true_eq,
    beq_iff_eq, ← UInt8.toNat_inj, UInt8.le_iff_toNat_le, UInt8.lt_iff_toNat_lt, ne_eq,
    UInt8.reduceToNat] at plain ⊢
  omega

theorem unescape_encodeByte (byte : UInt8) (rest : List UInt8) :
    unescape 0x20 (Utf8.encode (encodeByte byte) ++ rest) = byte :: unescape 0x20 rest := by
  rw [encodeByte]
  split_ifs with blank plain
  · have plus : Utf8.encode ['+'] = [0x2B] := rfl
    rw [plus, blank, List.singleton_append, unescape.eq_def]
    rfl
  · obtain ⟨ascii, noPercent, _, noPlus, _⟩ := isPlain_apart plain
    have same : Utf8.encode [Char.ofNat byte.toNat] = [byte] := by
      rw [Utf8.encode, List.flatMap_singleton, Utf8.encodeChar_of_one ascii]
    rw [same, List.singleton_append, unescape.eq_def]
    simp only [if_neg noPlus, if_neg noPercent]
  · have below := byte.toNat_lt
    obtain ⟨high, highBytes, highValue⟩ := utf8_hexDigit (show byte.toNat / 16 < 16 by omega)
    obtain ⟨low, lowBytes, lowValue⟩ := utf8_hexDigit (show byte.toNat % 16 < 16 by omega)
    have same : Utf8.encode ['%', hexDigit (byte.toNat / 16), hexDigit (byte.toNat % 16)] =
        [0x25, high, low] := by
      simp only [Utf8.encode, List.flatMap_cons, List.flatMap_nil, highBytes, lowBytes]
      rfl
    have whole : 16 * UInt8.ofNat (byte.toNat / 16) + UInt8.ofNat (byte.toNat % 16) = byte := by
      simp only [← UInt8.toNat_inj, UInt8.toNat_add, UInt8.toNat_mul, UInt8.toNat_ofNat',
        UInt8.reduceToNat]
      omega
    rw [same, List.cons_append, List.cons_append, List.singleton_append, unescape.eq_def]
    simp [highValue, lowValue, whole]

theorem unescape_encodeComponent (text : List Char) :
    unescape 0x20 (Utf8.encode (encodeComponent text)) = Utf8.encode text := by
  rw [encodeComponent]
  induction Utf8.encode text with
  | nil => simp [Utf8.encode, unescape]
  | cons byte bytes induction =>
    have split : Utf8.encode ((byte :: bytes).flatMap encodeByte) =
        Utf8.encode (encodeByte byte) ++ Utf8.encode (bytes.flatMap encodeByte) :=
      Utf8.encode_append ..
    rw [split, unescape_encodeByte, induction]

@[simp] theorem decodeComponent_encodeComponent (text : List Char) :
    decodeComponent (encodeComponent text) = text := by
  rw [decodeComponent, unescape_encodeComponent, Utf8.decodeLenient_encode]

theorem separator_not_mem_encodeByte (byte : UInt8) :
    '&' ∉ encodeByte byte ∧ '=' ∉ encodeByte byte := by
  have digits : ∀ value < 16, '&' ≠ hexDigit value ∧ '=' ≠ hexDigit value := by decide
  rw [encodeByte]
  split_ifs with blank plain
  · simp
  · obtain ⟨ascii, _, noAmpersand, _, noEquals⟩ := isPlain_apart plain
    have bytes := Utf8.encodeChar_of_one ascii
    simp only [List.mem_singleton]
    refine ⟨fun same => ?_, fun same => ?_⟩
    · rw [← same] at bytes
      exact noAmpersand (List.cons.inj bytes).1.symm
    · rw [← same] at bytes
      exact noEquals (List.cons.inj bytes).1.symm
  · have below := byte.toNat_lt
    have high := digits (byte.toNat / 16) (by omega)
    have low := digits (byte.toNat % 16) (by omega)
    simp [high, low]

theorem separator_not_mem_encodeComponent (text : List Char) :
    '&' ∉ encodeComponent text ∧ '=' ∉ encodeComponent text := by
  simp only [encodeComponent, List.mem_flatMap, not_exists, not_and]
  exact ⟨fun byte _ => (separator_not_mem_encodeByte byte).1,
    fun byte _ => (separator_not_mem_encodeByte byte).2⟩

theorem decode_encodePair (pair : String × String) :
    decode (encodeComponent pair.1.toList ++ '=' :: encodeComponent pair.2.toList) = [pair] := by
  obtain ⟨keyAmpersand, keyEquals⟩ := separator_not_mem_encodeComponent pair.1.toList
  obtain ⟨valueAmpersand, _⟩ := separator_not_mem_encodeComponent pair.2.toList
  rw [decode_segment (by simp) (by simp [keyAmpersand, valueAmpersand]),
    decodeSegment_of_equals keyEquals]
  simp

/-- Pairs are read back from their encoded form. -/
theorem decode_encode (pairs : List (String × String)) : decode (encode pairs) = pairs := by
  induction pairs with
  | nil => rfl
  | cons pair pairs induction =>
    cases pairs with
    | nil => exact decode_encodePair pair
    | cons next pairs =>
      have regroup : encode (pair :: next :: pairs) =
          (encodeComponent pair.1.toList ++ '=' :: encodeComponent pair.2.toList) ++
            '&' :: encode (next :: pairs) := rfl
      rw [regroup, decode_append_ampersand, decode_encodePair, induction, List.singleton_append]

end SqlMigrations.Text.FormUrl
