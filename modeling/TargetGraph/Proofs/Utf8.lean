import TargetGraph.Text.Utf8

/-!
# Decoding UTF-8

Decoding is the exact inverse of encoding: a sequence of bytes is decoded to a text just when it is the
text's encoding. Truncated and overlong sequences, surrogates and stray continuation bytes encode
nothing, and so they are refused; so is a character of which only a part has arrived.
-/

namespace TargetGraph.Text.Utf8

set_option autoImplicit false

def encode (text : List Char) : List UInt8 := text.flatMap String.utf8EncodeChar

theorem continuation_some_iff (byte : UInt8) (bits : Nat) :
    continuation? byte = some bits ↔ byte.toNat = 0x80 + bits ∧ bits < 0x40 := by
  rw [continuation?]
  split
  · rw [Option.some.injEq]
    omega
  · simp only [reduceCtorEq, false_iff]
    omega

theorem code_of_char {code : Nat} (valid : code.isValidChar) : (Char.ofNat code).toNat = code := by
  rw [Char.ofNat, dif_pos valid]
  rfl

theorem scalar_some_iff (least code : Nat) (c : Char) :
    scalar? least code = some c ↔ least ≤ c.toNat ∧ c.toNat = code := by
  rw [scalar?]
  split
  · rename_i fits
    rw [Option.some.injEq]
    constructor
    · rintro rfl
      rw [code_of_char fits.2]
      exact ⟨fits.1, rfl⟩
    · rintro ⟨_, rfl⟩
      exact Char.ofNat_toNat c
  · rename_i unfit
    simp only [reduceCtorEq, false_iff]
    rintro ⟨least, rfl⟩
    exact unfit ⟨least, c.valid⟩

theorem byte_of_code (byte : UInt8) (code : Nat) (same : code = byte.toNat) :
    UInt8.ofNat code = byte := by
  rw [same, UInt8.ofNat_toNat]

theorem code_of_byte (code : Nat) (small : code < 0x100) : (UInt8.ofNat code).toNat = code :=
  UInt8.toNat_ofNat_of_lt' small

theorem code_below (c : Char) : c.toNat < 0x110000 := by
  have valid : c.toNat.isValidChar := c.valid
  rcases valid with low | high <;> omega

section Widths

variable {c : Char} {first second third fourth : UInt8}

theorem encode_one (below : c.toNat < 0x80) (lead : first.toNat = c.toNat) :
    String.utf8EncodeChar c = [first] := by
  have code : c.val.toNat = c.toNat := rfl
  simp only [String.utf8EncodeChar, code]
  rw [if_pos (by omega), byte_of_code first c.toNat lead.symm]

theorem encode_two (least : 0x80 ≤ c.toNat) (below : c.toNat < 0x800)
    (lead : first.toNat = 0xC0 + c.toNat / 64) (low : second.toNat = 0x80 + c.toNat % 64) :
    String.utf8EncodeChar c = [first, second] := by
  have code : c.val.toNat = c.toNat := rfl
  simp only [String.utf8EncodeChar, code]
  rw [if_neg (by omega), if_pos (by omega),
    byte_of_code first (c.toNat / 64 % 0x20 + 0xC0) (by omega),
    byte_of_code second (c.toNat % 0x40 + 0x80) (by omega)]

theorem encode_three (least : 0x800 ≤ c.toNat) (below : c.toNat < 0x10000)
    (lead : first.toNat = 0xE0 + c.toNat / 4096)
    (middle : second.toNat = 0x80 + c.toNat / 64 % 64) (low : third.toNat = 0x80 + c.toNat % 64) :
    String.utf8EncodeChar c = [first, second, third] := by
  have code : c.val.toNat = c.toNat := rfl
  simp only [String.utf8EncodeChar, code]
  rw [if_neg (by omega), if_neg (by omega), if_pos (by omega),
    byte_of_code first (c.toNat / 4096 % 0x10 + 0xE0) (by omega),
    byte_of_code second (c.toNat / 64 % 0x40 + 0x80) (by omega),
    byte_of_code third (c.toNat % 0x40 + 0x80) (by omega)]

theorem encode_four (least : 0x10000 ≤ c.toNat) (lead : first.toNat = 0xF0 + c.toNat / 262144)
    (high : second.toNat = 0x80 + c.toNat / 4096 % 64)
    (middle : third.toNat = 0x80 + c.toNat / 64 % 64) (low : fourth.toNat = 0x80 + c.toNat % 64) :
    String.utf8EncodeChar c = [first, second, third, fourth] := by
  have below := code_below c
  have code : c.val.toNat = c.toNat := rfl
  simp only [String.utf8EncodeChar, code]
  rw [if_neg (by omega), if_neg (by omega), if_neg (by omega),
    byte_of_code first (c.toNat / 262144 % 0x08 + 0xF0) (by omega),
    byte_of_code second (c.toNat / 4096 % 0x40 + 0x80) (by omega),
    byte_of_code third (c.toNat / 64 % 0x40 + 0x80) (by omega),
    byte_of_code fourth (c.toNat % 0x40 + 0x80) (by omega)]

theorem decode_one (rest : List UInt8) (below : c.toNat < 0x80) (lead : first.toNat = c.toNat) :
    decode? (first :: rest) = (decode? rest).map (c :: ·) := by
  rw [decode?.eq_def]
  simp only [lead, Char.ofNat_toNat]
  rw [if_pos below]

theorem decode_two (rest : List UInt8) (least : 0x80 ≤ c.toNat) (below : c.toNat < 0x800)
    (lead : first.toNat = 0xC0 + c.toNat / 64) (low : second.toNat = 0x80 + c.toNat % 64) :
    decode? (first :: second :: rest) = (decode? rest).map (c :: ·) := by
  have lowBits := (continuation_some_iff second (c.toNat % 64)).mpr ⟨low, by omega⟩
  have whole := (scalar_some_iff 0x80 ((first.toNat - 0xC0) * 64 + c.toNat % 64) c).mpr
    ⟨least, by omega⟩
  rw [decode?]
  simp only [lowBits, whole, Option.bind_eq_bind, Option.bind_some]
  rw [if_neg (by omega), if_neg (by omega), if_pos (by omega)]

theorem decode_three (rest : List UInt8) (least : 0x800 ≤ c.toNat) (below : c.toNat < 0x10000)
    (lead : first.toNat = 0xE0 + c.toNat / 4096)
    (middle : second.toNat = 0x80 + c.toNat / 64 % 64) (low : third.toNat = 0x80 + c.toNat % 64) :
    decode? (first :: second :: third :: rest) = (decode? rest).map (c :: ·) := by
  have middleBits := (continuation_some_iff second (c.toNat / 64 % 64)).mpr ⟨middle, by omega⟩
  have lowBits := (continuation_some_iff third (c.toNat % 64)).mpr ⟨low, by omega⟩
  have whole := (scalar_some_iff 0x800
    (((first.toNat - 0xE0) * 64 + c.toNat / 64 % 64) * 64 + c.toNat % 64) c).mpr ⟨least, by omega⟩
  rw [decode?]
  simp only [middleBits, lowBits, whole, Option.bind_eq_bind, Option.bind_some]
  rw [if_neg (by omega), if_neg (by omega), if_neg (by omega), if_pos (by omega)]

theorem decode_four (rest : List UInt8) (least : 0x10000 ≤ c.toNat)
    (lead : first.toNat = 0xF0 + c.toNat / 262144)
    (high : second.toNat = 0x80 + c.toNat / 4096 % 64)
    (middle : third.toNat = 0x80 + c.toNat / 64 % 64) (low : fourth.toNat = 0x80 + c.toNat % 64) :
    decode? (first :: second :: third :: fourth :: rest) = (decode? rest).map (c :: ·) := by
  have below := code_below c
  have highBits := (continuation_some_iff second (c.toNat / 4096 % 64)).mpr ⟨high, by omega⟩
  have middleBits := (continuation_some_iff third (c.toNat / 64 % 64)).mpr ⟨middle, by omega⟩
  have lowBits := (continuation_some_iff fourth (c.toNat % 64)).mpr ⟨low, by omega⟩
  have whole := (scalar_some_iff 0x10000
    ((((first.toNat - 0xF0) * 64 + c.toNat / 4096 % 64) * 64 + c.toNat / 64 % 64) * 64 +
      c.toNat % 64) c).mpr ⟨least, by omega⟩
  rw [decode?]
  simp only [highBits, middleBits, lowBits, whole, Option.bind_eq_bind, Option.bind_some]
  rw [if_neg (by omega), if_neg (by omega), if_neg (by omega), if_neg (by omega),
    if_pos (by omega)]

end Widths

/-- The first byte of an encoding tells how many follow, and the character is put together from them
whatever stands behind. -/
theorem decode_encoded_char (c : Char) (rest : List UInt8) :
    decode? (String.utf8EncodeChar c ++ rest) = (decode? rest).map (c :: ·) := by
  have below := code_below c
  have low := code_of_byte (0x80 + c.toNat % 64) (by omega)
  have middle := code_of_byte (0x80 + c.toNat / 64 % 64) (by omega)
  have high := code_of_byte (0x80 + c.toNat / 4096 % 64) (by omega)
  by_cases one : c.toNat < 0x80
  · have lead := code_of_byte c.toNat (by omega)
    rw [encode_one one lead]
    exact decode_one rest one lead
  · by_cases two : c.toNat < 0x800
    · have lead := code_of_byte (0xC0 + c.toNat / 64) (by omega)
      rw [encode_two (by omega) two lead low]
      exact decode_two rest (by omega) two lead low
    · by_cases three : c.toNat < 0x10000
      · have lead := code_of_byte (0xE0 + c.toNat / 4096) (by omega)
        rw [encode_three (by omega) three lead middle low]
        exact decode_three rest (by omega) three lead middle low
      · have lead := code_of_byte (0xF0 + c.toNat / 262144) (by omega)
        rw [encode_four (by omega) lead high middle low]
        exact decode_four rest (by omega) lead high middle low

theorem decode_encode (text : List Char) : decode? (encode text) = some text := by
  induction text with
  | nil => rfl
  | cons c text induction =>
      rw [encode, List.flatMap_cons, decode_encoded_char]
      change (decode? (encode text)).map (c :: ·) = _
      rw [induction]
      rfl

theorem encode_cons (c : Char) (text : List Char) :
    encode (c :: text) = String.utf8EncodeChar c ++ encode text := List.flatMap_cons

theorem encode_of_decode {bytes : List UInt8} {text : List Char} (read : decode? bytes = some text) :
    encode text = bytes := by
  fun_induction decode? bytes generalizing text with
  | case1 =>
      cases read
      rfl
  | case2 first rest lead below =>
      rename_i induction
      obtain ⟨later, decoded, rfl⟩ := Option.map_eq_some_iff.mp read
      have code : (Char.ofNat first.toNat).toNat = first.toNat :=
        code_of_char (Or.inl (Nat.lt_trans below (by decide)))
      rw [encode_cons, induction decoded, encode_one (by rw [code]; exact below) code.symm]
      rfl
  | case4 first lead _ above below second rest =>
      rename_i induction
      have start : lead = first.toNat := rfl
      simp only [Option.bind_eq_bind, Option.bind_eq_some_iff, Option.map_eq_some_iff] at read
      obtain ⟨low, isLow, c, isChar, later, decoded, rfl⟩ := read
      rw [continuation_some_iff] at isLow
      rw [scalar_some_iff] at isChar
      rw [encode_cons, induction decoded,
        encode_two isChar.1 (by omega) (show first.toNat = _ by omega)
          (show second.toNat = _ by omega)]
      rfl
  | case6 first lead _ _ above below second third rest =>
      rename_i induction
      have start : lead = first.toNat := rfl
      simp only [Option.bind_eq_bind, Option.bind_eq_some_iff, Option.map_eq_some_iff] at read
      obtain ⟨middle, isMiddle, low, isLow, c, isChar, later, decoded, rfl⟩ := read
      rw [continuation_some_iff] at isMiddle isLow
      rw [scalar_some_iff] at isChar
      rw [encode_cons, induction decoded,
        encode_three isChar.1 (by omega) (show first.toNat = _ by omega)
          (show second.toNat = _ by omega) (show third.toNat = _ by omega)]
      rfl
  | case8 first lead _ _ _ above below second third fourth rest =>
      rename_i induction
      have start : lead = first.toNat := rfl
      simp only [Option.bind_eq_bind, Option.bind_eq_some_iff, Option.map_eq_some_iff] at read
      obtain ⟨high, isHigh, middle, isMiddle, low, isLow, c, isChar, later, decoded, rfl⟩ := read
      rw [continuation_some_iff] at isHigh isMiddle isLow
      rw [scalar_some_iff] at isChar
      rw [encode_cons, induction decoded,
        encode_four isChar.1 (show first.toNat = _ by omega) (show second.toNat = _ by omega)
          (show third.toNat = _ by omega) (show fourth.toNat = _ by omega)]
      rfl
  | case3 => cases read
  | case5 => cases read
  | case7 => cases read
  | case9 => cases read
  | case10 => cases read

def bytesOf (text : String) : List UInt8 := text.toUTF8.data.toList

theorem bytes_of_list (text : List Char) : bytesOf (String.ofList text) = encode text := by
  rw [bytesOf, String.toUTF8_eq_toByteArray, String.toByteArray_ofList, List.utf8Encode,
    List.data_toByteArray]
  rfl

/-- A sequence of bytes is decoded to the text that has these bytes, and to no other. -/
theorem decode_some_iff (bytes : List UInt8) (text : String) :
    decode? bytes = some text.toList ↔ bytesOf text = bytes := by
  have same := bytes_of_list text.toList
  rw [String.ofList_toList] at same
  rw [same]
  constructor
  · exact encode_of_decode
  · rintro rfl
    exact decode_encode text.toList

theorem decode_none {bytes : List UInt8} (garbled : ∀ text : String, bytesOf text ≠ bytes) :
    decode? bytes = none := by
  cases read : decode? bytes with
  | none => rfl
  | some text =>
      have back := encode_of_decode read
      rw [← bytes_of_list] at back
      exact absurd back (garbled (String.ofList text))

end TargetGraph.Text.Utf8
