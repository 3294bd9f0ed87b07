import SqlMigrations.Proofs.Text.CaseMapping
import SqlMigrations.Proofs.Text.Search

/-!
Texts by offsets in bytes. What stands between two offsets can be cut out where both are boundaries
of characters. The bytes of a word are found in those of a text only at such boundaries: the first
byte of a word starts a character, and no other byte of a character does.
-/

namespace SqlMigrations.Text

open Utf8 (encode encode_cons encode_append)

variable {front back text word before after : List Char} {c : Char} {offset : Nat}

def byteSize (text : List Char) : Nat :=
  (String.ofList text).utf8ByteSize

/-- Whether an offset lies within a text or at its end, and not within a character. -/
def IsBoundary (text : List Char) (offset : Nat) : Prop :=
  String.Pos.Raw.IsValid (String.ofList text) ⟨offset⟩

instance (text : List Char) (offset : Nat) : Decidable (IsBoundary text offset) :=
  inferInstanceAs (Decidable (String.Pos.Raw.IsValid _ _))

/-- What stands between two offsets, if they are boundaries and in order. -/
def slice? (text : List Char) (start stop : Nat) : Option (List Char) :=
  if bounds : IsBoundary text start ∧ IsBoundary text stop ∧ start ≤ stop then
    some ((String.ofList text).extract ((String.ofList text).pos ⟨start⟩ bounds.1)
      ((String.ofList text).pos ⟨stop⟩ bounds.2.1)).toList
  else none

theorem byteSize_append (front back : List Char) :
    byteSize (front ++ back) = byteSize front + byteSize back := by
  rw [byteSize, String.ofList_append, String.utf8ByteSize_append, byteSize, byteSize]

theorem byteSize_cons (c : Char) (text : List Char) :
    byteSize (c :: text) = c.utf8Size + byteSize text := by
  rw [← List.singleton_append, byteSize_append, byteSize, ← String.singleton_eq_ofList,
    String.utf8ByteSize_singleton]

theorem encode_length (text : List Char) : (encode text).length = byteSize text := by
  induction text with
  | nil => rfl
  | cons c text induction =>
    rw [encode_cons, List.length_append, induction, String.length_utf8EncodeChar, byteSize_cons]

/-- The boundaries of a text are where it can be parted. -/
theorem isBoundary_iff : IsBoundary text offset ↔
    ∃ front back, text = front ++ back ∧ offset = byteSize front := by
  rw [IsBoundary, String.Pos.Raw.isValid_iff_exists_append]
  constructor
  · rintro ⟨front, back, whole, same⟩
    refine ⟨front.toList, back.toList, ?_, ?_⟩
    · rw [← String.toList_append, ← whole, String.toList_ofList]
    · rw [byteSize, String.ofList_toList]
      exact congrArg String.Pos.Raw.byteIdx same
  · rintro ⟨front, back, rfl, rfl⟩
    exact ⟨String.ofList front, String.ofList back, String.ofList_append, rfl⟩

theorem slice?_append (front middle back : List Char) :
    slice? (front ++ (middle ++ back)) (byteSize front) (byteSize (front ++ middle)) =
      some middle := by
  have start : IsBoundary (front ++ (middle ++ back)) (byteSize front) :=
    isBoundary_iff.mpr ⟨front, _, rfl, rfl⟩
  have stop : IsBoundary (front ++ (middle ++ back)) (byteSize (front ++ middle)) :=
    isBoundary_iff.mpr ⟨front ++ middle, back, (List.append_assoc ..).symm, rfl⟩
  have sizes := byteSize_append front middle
  rw [slice?, dif_pos ⟨start, stop, sizes ▸ Nat.le_add_right _ _⟩, Option.some.injEq,
    ← String.ofList_inj, String.ofList_toList, ← String.toByteArray_inj,
    String.toByteArray_extract]
  change (String.ofList (front ++ (middle ++ back))).toByteArray.extract (byteSize front)
    (byteSize (front ++ middle)) = _
  rw [sizes, String.ofList_append, String.ofList_append, String.toByteArray_append,
    String.toByteArray_append]
  exact (ByteArray.extract_append_size_add' (i := 0) rfl).trans
    (ByteArray.extract_append_eq_left rfl)

/-- The offsets of the places where a word stands in bytes, each behind the last one; `offset` bytes
went before, and `skip` bytes are still those of a word. -/
def wordOffsets (word : List UInt8) (offset skip : Nat) : List UInt8 → List Nat
  | [] => []
  | byte :: rest =>
    match skip with
    | more + 1 => wordOffsets word (offset + 1) more rest
    | 0 =>
      if word.isPrefixOf (byte :: rest) then
        offset :: wordOffsets word (offset + 1) (word.length - 1) rest
      else wordOffsets word (offset + 1) 0 rest

theorem wordOffsets_skip (word passed rest : List UInt8) (offset : Nat) :
    wordOffsets word offset passed.length (passed ++ rest) =
      wordOffsets word (offset + passed.length) 0 rest := by
  induction passed generalizing offset with
  | nil => rfl
  | cons byte passed induction =>
    rw [List.length_cons, List.cons_append, wordOffsets, induction, Nat.add_right_comm]
    rfl

theorem wordOffsets_of_absent {word rest : List UInt8} {byte : UInt8}
    (absent : ¬ word <+: byte :: rest) (offset : Nat) :
    wordOffsets word offset 0 (byte :: rest) = wordOffsets word (offset + 1) 0 rest := by
  rw [wordOffsets, if_neg (by simpa using absent)]

theorem wordOffsets_of_start {word : List UInt8} (nonempty : word ≠ []) (rest : List UInt8)
    (offset : Nat) : wordOffsets word offset 0 (word ++ rest) =
      offset :: wordOffsets word (offset + word.length) 0 rest := by
  cases word with
  | nil => contradiction
  | cons byte more =>
    have start : (byte :: more).isPrefixOf (byte :: (more ++ rest)) = true :=
      List.isPrefixOf_iff_prefix.mpr ⟨rest, rfl⟩
    rw [List.cons_append, wordOffsets, if_pos start, List.length_cons, Nat.add_sub_cancel,
      wordOffsets_skip, Nat.add_right_comm]
    rfl

/-- Only the first byte of a character starts one. -/
theorem encodeChar_bytes (c : Char) : ∃ first later, String.utf8EncodeChar c = first :: later ∧
    first.IsUTF8FirstByte ∧ ∀ byte ∈ later, ¬ byte.IsUTF8FirstByte := by
  have starts {i : Nat} (inside : i < (String.utf8EncodeChar c).length) :
      (String.utf8EncodeChar c)[i].IsUTF8FirstByte ↔ i = 0 :=
    UInt8.isUTF8FirstByte_getElem_utf8EncodeChar
  obtain ⟨first, later, bytes⟩ := List.exists_cons_of_ne_nil (@String.utf8EncodeChar_ne_nil c)
  simp only [bytes, List.length_cons] at starts
  refine ⟨first, later, bytes, (starts (Nat.succ_pos _)).mpr rfl, fun byte member => ?_⟩
  obtain ⟨i, inside, rfl⟩ := List.getElem_of_mem member
  exact fun start => absurd ((starts (Nat.succ_lt_succ inside)).mp start) (Nat.succ_ne_zero i)

/-- Bytes that go on with a character are passed over. -/
theorem wordOffsets_later {later : List UInt8} (nonempty : word ≠ [])
    (goOn : ∀ byte ∈ later, ¬ byte.IsUTF8FirstByte) (rest : List UInt8) (offset : Nat) :
    wordOffsets (encode word) offset 0 (later ++ rest) =
      wordOffsets (encode word) (offset + later.length) 0 rest := by
  induction later generalizing offset with
  | nil => rfl
  | cons byte later induction =>
    obtain ⟨goesOn, others⟩ := List.forall_mem_cons.mp goOn
    have absent : ¬ encode word <+: byte :: (later ++ rest) := by
      obtain ⟨w, more, rfl⟩ := List.exists_cons_of_ne_nil nonempty
      obtain ⟨first, _, bytes, starts, -⟩ := encodeChar_bytes w
      rw [encode_cons, bytes, List.cons_append, List.cons_prefix_cons]
      rintro ⟨rfl, -⟩
      exact goesOn starts
    rw [List.cons_append, wordOffsets_of_absent absent, induction others, List.length_cons,
      Nat.add_assoc, Nat.add_comm 1]

theorem prefix_of_encoded (found : encode word <+: encode text) : word <+: text := by
  obtain ⟨rest, bytes⟩ := found
  refine List.isPrefix_of_utf8Encode_append_eq_utf8Encode rest.toByteArray ?_
  rw [List.utf8Encode, List.utf8Encode, ← List.toByteArray_append]
  exact congrArg List.toByteArray bytes

theorem wordOffsets_cons (nonempty : word ≠ []) (absent : ¬ word <+: c :: text) (offset : Nat) :
    wordOffsets (encode word) offset 0 (encode (c :: text)) =
      wordOffsets (encode word) (offset + c.utf8Size) 0 (encode text) := by
  have unfound : ¬ encode word <+: encode (c :: text) := mt prefix_of_encoded absent
  have size := String.length_utf8EncodeChar c
  obtain ⟨first, later, bytes, -, goOn⟩ := encodeChar_bytes c
  rw [encode_cons, bytes, List.cons_append] at unfound ⊢
  rw [bytes, List.length_cons] at size
  rw [wordOffsets_of_absent unfound, wordOffsets_later nonempty goOn, ← size, Nat.add_assoc,
    Nat.add_comm 1]

theorem wordOffsets_of_none (nonempty : word ≠ []) (absent : splitOnce? word text = none)
    (offset : Nat) : wordOffsets (encode word) offset 0 (encode text) = [] := by
  induction text generalizing offset with
  | nil => rfl
  | cons c text induction =>
    rw [splitOnce?] at absent
    cases start : stripStart? word (c :: text) with
    | some rest => simp [start] at absent
    | none =>
      have notHere : ¬ word <+: c :: text := by simp [← stripStart?_isSome_iff, start]
      have later : splitOnce? word text = none := by simpa [start] using absent
      rw [wordOffsets_cons nonempty notHere, induction later]

theorem wordOffsets_of_some (nonempty : word ≠ [])
    (found : splitOnce? word text = some (before, after)) (offset : Nat) :
    wordOffsets (encode word) offset 0 (encode text) = (offset + byteSize before) ::
      wordOffsets (encode word) (offset + byteSize (before ++ word)) 0 (encode after) := by
  have bytes := Utf8.encode_ne_nil nonempty
  induction text generalizing offset before with
  | nil =>
    rw [splitOnce?, Option.map_eq_some_iff] at found
    obtain ⟨rest, start, -⟩ := found
    have empty := (List.append_eq_nil_iff.mp (stripStart?_eq_some_iff.mp start).symm).1
    exact absurd empty nonempty
  | cons c text induction =>
    rw [splitOnce?] at found
    cases start : stripStart? word (c :: text) with
    | some rest =>
      rw [start] at found
      obtain ⟨rfl, rfl⟩ := Prod.mk.inj (Option.some.inj found)
      rw [stripStart?_eq_some_iff.mp start, encode_append, wordOffsets_of_start bytes,
        encode_length]
      rfl
    | none =>
      have notHere : ¬ word <+: c :: text := by simp [← stripStart?_isSome_iff, start]
      rw [start] at found
      obtain ⟨⟨front, back⟩, cut, same⟩ := Option.map_eq_some_iff.mp found
      obtain ⟨rfl, rfl⟩ := Prod.mk.inj same
      rw [wordOffsets_cons nonempty notHere, induction cut, List.cons_append, byteSize_cons,
        byteSize_cons, Nat.add_assoc, Nat.add_assoc]

/-- Every place of a word is a boundary, and so is the end of the word there. -/
theorem exists_of_mem_wordOffsets {place : Nat} (nonempty : word ≠ [])
    (member : place ∈ wordOffsets (encode word) offset 0 (encode text)) :
    ∃ before after, text = before ++ (word ++ after) ∧ place = offset + byteSize before := by
  induction size : text.length using Nat.strongRecOn generalizing text offset with
  | _ length induction =>
    cases cut : splitOnce? word text with
    | none => simp [wordOffsets_of_none nonempty cut] at member
    | some parts =>
      obtain ⟨front, back⟩ := parts
      have whole := ((splitOnce?_eq_some_iff nonempty).mp cut).1
      rw [List.append_assoc] at whole
      rw [wordOffsets_of_some nonempty cut, List.mem_cons] at member
      rcases member with rfl | later
      · exact ⟨front, back, whole, rfl⟩
      · have shorter : back.length < length := by
          have positive := List.length_pos_iff.mpr nonempty
          simp only [← size, whole, List.length_append]
          omega
        obtain ⟨before, after, rfl, rfl⟩ := induction _ shorter later rfl
        refine ⟨front ++ (word ++ before), after, by simp [whole], ?_⟩
        simp only [byteSize_append, Nat.add_assoc]

theorem utf8Size_asciiUpper (c : Char) : (asciiUpper c).utf8Size = c.utf8Size := by
  by_cases small : 'a' ≤ c ∧ c ≤ 'z'
  · have value := toNat_asciiUpper c
    simp only [char_le_iff, Char.reduceToNat] at small
    have one {d : Char} (below : d.toNat < 128) : d.utf8Size = 1 := by
      rw [Char.utf8Size_eq_one_iff, UInt32.le_iff_toNat_le]
      exact Nat.le_of_lt_succ below
    rw [if_pos small] at value
    rw [one (by omega), one (by omega)]
  · rw [asciiUpper, if_neg small]

/-- The upper case of a text has its characters at the same offsets. -/
theorem byteSize_map_asciiUpper (text : List Char) :
    byteSize (text.map asciiUpper) = byteSize text := by
  induction text with
  | nil => rfl
  | cons c text induction =>
    rw [List.map_cons, byteSize_cons, byteSize_cons, utf8Size_asciiUpper, induction]

end SqlMigrations.Text
