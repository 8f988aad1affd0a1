import DeclCodec.Proofs.Json.Printable
import DeclCodec.Text.Utf

/-!
# Texts and their bytes

The bytes of a text are those of its characters, one after another, and the decoder
takes from the bytes of one character exactly this character: its first byte tells how
many are to come, and each byte behind it adds six bits. A text that begins with two
printable characters announces its encoding by their bytes, and so it is decoded from
its bytes.
-/

namespace DeclCodec.Text

/-! ## The bytes of a text -/

/-- The bytes that are still to be listed follow those already listed. -/
theorem toList_loop_eq (bytes : ByteArray) (start : Nat) (listed : List UInt8) :
    ByteArray.toList.loop bytes start listed = listed.reverse ++ bytes.data.toList.drop start := by
  fun_induction ByteArray.toList.loop bytes start listed with
  | case1 start listed inside inductionHypothesis =>
    have inData : start < bytes.data.toList.length := by simpa using inside
    rw [inductionHypothesis, List.drop_eq_getElem_cons inData]
    simp [ByteArray.get!, inside]
  | case2 start listed outside =>
    rw [List.drop_eq_nil_of_le (by simpa using Nat.le_of_not_lt outside), List.append_nil]

/-- The bytes of a text are those of its characters. -/
theorem encodeUtf8_ofList (text : List Char) :
    encodeUtf8 (String.ofList text) = text.flatMap String.utf8EncodeChar := by
  have bytes : (String.ofList text).toUTF8 = text.utf8Encode := by
    rw [String.toUTF8_eq_toByteArray]
    rfl
  rw [encodeUtf8, bytes, List.utf8Encode, ByteArray.toList, toList_loop_eq]
  simp

/-! ## Decoding byte by byte -/

section Steps

variable {unfinished next : Unfinished} {byte : UInt8} {rest : List UInt8}

/-- A first byte that tells of others is kept in mind. -/
theorem decodeUtf8_lead (lead : leadByte? byte = some next) (more : 0 < next.missing) :
    decodeUtf8 none (byte :: rest) = decodeUtf8 (some next) rest := by
  rw [decodeUtf8, lead]
  exact if_pos more

/-- A byte that others are to follow is kept in mind. -/
theorem decodeUtf8_next (goesOn : unfinished.next? byte = some next) (more : 0 < next.missing) :
    decodeUtf8 (some unfinished) (byte :: rest) = decodeUtf8 (some next) rest := by
  simp only [decodeUtf8, goesOn, if_pos more]

/-- The last byte of a code point ends it. -/
theorem decodeUtf8_last (goesOn : unfinished.next? byte = some next) (last : next.missing = 0)
    (valid : next.isValid = true) :
    decodeUtf8 (some unfinished) (byte :: rest) =
      (decodeUtf8 none rest).map (CodePoint.ofNat next.code :: ·) := by
  simp only [decodeUtf8, goesOn, last, Nat.lt_irrefl, if_false, valid, if_true]

end Steps

/-- A byte is below another one if its number is. -/
theorem ofNat_lt_iff {number : Nat} (small : number < 256) {bound : UInt8} :
    UInt8.ofNat number < bound ↔ number < bound.toNat := by
  rw [UInt8.lt_iff_toNat_lt, UInt8.toNat_ofNat', Nat.mod_eq_of_lt small]

/-- A byte behind the first one adds six bits. -/
theorem Unfinished.next?_ofNat (missing code least : Nat) {bits : Nat} (six : bits < 64) :
    Unfinished.next? ⟨missing + 1, code, least⟩ (UInt8.ofNat (bits + 128)) =
      some ⟨missing, code * 64 + bits, least⟩ := by
  have number : (UInt8.ofNat (bits + 128)).toNat = bits + 128 := by
    rw [UInt8.toNat_ofNat', Nat.mod_eq_of_lt (by omega)]
  have range : 0x80 ≤ UInt8.ofNat (bits + 128) ∧ UInt8.ofNat (bits + 128) < 0xC0 := by
    rw [UInt8.le_iff_toNat_le, UInt8.lt_iff_toNat_lt, number]
    exact ⟨Nat.le_add_left _ _, by change bits + 128 < 192; omega⟩
  simp only [next?, if_pos range, number, Nat.add_sub_cancel]

/-- What a first byte says of the number of bytes and of the upper bits. -/
theorem leadByte?_ofNat {number : Nat} (small : number < 256) :
    leadByte? (UInt8.ofNat number) =
      if number < 0x80 then some ⟨0, number, 0⟩
      else if number < 0xC0 then none
      else if number < 0xE0 then some ⟨1, number - 0xC0, 0x80⟩
      else if number < 0xF0 then some ⟨2, number - 0xE0, 0x800⟩
      else if number < 0xF8 then some ⟨3, number - 0xF0, 0x10000⟩
      else none := by
  have same : (UInt8.ofNat number).toNat = number := by
    rw [UInt8.toNat_ofNat', Nat.mod_eq_of_lt small]
  simp only [leadByte?, ofNat_lt_iff small, same]
  rfl

/-- A code point that takes so many bytes and no fewer may be written in them. -/
theorem Unfinished.isValid_of {missing code least : Nat} (enough : least ≤ code)
    (valid : code < 0x110000) : Unfinished.isValid ⟨missing, code, least⟩ = true := by
  rw [isValid, Bool.and_eq_true, decide_eq_true_iff, decide_eq_true_iff]
  exact ⟨enough, valid⟩

section Lengths

variable {code : Nat}

/-- A code point of one byte is decoded, whatever follows. -/
theorem decodeUtf8_one (short : code < 0x80) (rest : List UInt8) :
    decodeUtf8 none (UInt8.ofNat code :: rest) =
      (decodeUtf8 none rest).map (CodePoint.ofNat code :: ·) := by
  have lead : leadByte? (UInt8.ofNat code) = some ⟨0, code, 0⟩ := by
    rw [leadByte?_ofNat (by omega), if_pos short]
  have isValid := @Unfinished.isValid_of 0 code 0 (Nat.zero_le _) (by omega)
  simp only [decodeUtf8, lead, Nat.lt_irrefl, if_false, isValid, if_true]

/-- So is one of two bytes. -/
theorem decodeUtf8_two (long : 0x80 ≤ code) (short : code < 0x800) (rest : List UInt8) :
    decodeUtf8 none
        (UInt8.ofNat (code / 64 % 32 + 192) :: UInt8.ofNat (code % 64 + 128) :: rest) =
      (decodeUtf8 none rest).map (CodePoint.ofNat code :: ·) := by
  have upper : code / 64 % 32 + 192 - 0xC0 = code / 64 := by omega
  have lead : leadByte? (UInt8.ofNat (code / 64 % 32 + 192)) = some ⟨1, code / 64, 0x80⟩ := by
    rw [leadByte?_ofNat (by omega), if_neg (by omega), if_neg (by omega), if_pos (by omega), upper]
  have last := Unfinished.next?_ofNat 0 (code / 64) 0x80 (show code % 64 < 64 by omega)
  have whole : code / 64 * 64 + code % 64 = code := by omega
  rw [whole] at last
  rw [decodeUtf8_lead lead Nat.one_pos,
    decodeUtf8_last last rfl (Unfinished.isValid_of long (by omega))]

/-- So is one of three bytes. -/
theorem decodeUtf8_three (long : 0x800 ≤ code) (short : code < 0x10000) (rest : List UInt8) :
    decodeUtf8 none (UInt8.ofNat (code / 4096 % 16 + 224) ::
        UInt8.ofNat (code / 64 % 64 + 128) :: UInt8.ofNat (code % 64 + 128) :: rest) =
      (decodeUtf8 none rest).map (CodePoint.ofNat code :: ·) := by
  have upper : code / 4096 % 16 + 224 - 0xE0 = code / 4096 := by omega
  have lead : leadByte? (UInt8.ofNat (code / 4096 % 16 + 224)) =
      some ⟨2, code / 4096, 0x800⟩ := by
    rw [leadByte?_ofNat (by omega), if_neg (by omega), if_neg (by omega), if_neg (by omega),
      if_pos (by omega), upper]
  have second := Unfinished.next?_ofNat 1 (code / 4096) 0x800 (show code / 64 % 64 < 64 by omega)
  have last := Unfinished.next?_ofNat 0 (code / 4096 * 64 + code / 64 % 64) 0x800
    (show code % 64 < 64 by omega)
  have whole : (code / 4096 * 64 + code / 64 % 64) * 64 + code % 64 = code := by omega
  rw [whole] at last
  rw [decodeUtf8_lead lead Nat.two_pos, decodeUtf8_next second Nat.one_pos,
    decodeUtf8_last last rfl (Unfinished.isValid_of long (by omega))]

/-- So is one of four bytes. -/
theorem decodeUtf8_four (long : 0x10000 ≤ code) (valid : code < 0x110000) (rest : List UInt8) :
    decodeUtf8 none (UInt8.ofNat (code / 262144 % 8 + 240) ::
        UInt8.ofNat (code / 4096 % 64 + 128) :: UInt8.ofNat (code / 64 % 64 + 128) ::
        UInt8.ofNat (code % 64 + 128) :: rest) =
      (decodeUtf8 none rest).map (CodePoint.ofNat code :: ·) := by
  have upper : code / 262144 % 8 + 240 - 0xF0 = code / 262144 := by omega
  have lead : leadByte? (UInt8.ofNat (code / 262144 % 8 + 240)) =
      some ⟨3, code / 262144, 0x10000⟩ := by
    rw [leadByte?_ofNat (by omega), if_neg (by omega), if_neg (by omega), if_neg (by omega),
      if_neg (by omega), if_pos (by omega), upper]
  have second := Unfinished.next?_ofNat 2 (code / 262144) 0x10000
    (show code / 4096 % 64 < 64 by omega)
  have third := Unfinished.next?_ofNat 1 (code / 262144 * 64 + code / 4096 % 64) 0x10000
    (show code / 64 % 64 < 64 by omega)
  have last := Unfinished.next?_ofNat 0
    ((code / 262144 * 64 + code / 4096 % 64) * 64 + code / 64 % 64) 0x10000
    (show code % 64 < 64 by omega)
  have whole : ((code / 262144 * 64 + code / 4096 % 64) * 64 + code / 64 % 64) * 64 +
      code % 64 = code := by omega
  rw [whole] at last
  rw [decodeUtf8_lead lead (Nat.succ_pos 2), decodeUtf8_next second Nat.two_pos,
    decodeUtf8_next third Nat.one_pos, decodeUtf8_last last rfl (Unfinished.isValid_of long valid)]

end Lengths

/-- The bytes of a character are decoded to it, whatever follows. -/
theorem decodeUtf8_utf8EncodeChar (c : Char) (rest : List UInt8) :
    decodeUtf8 none (String.utf8EncodeChar c ++ rest) =
      (decodeUtf8 none rest).map (.char c :: ·) := by
  have itself : CodePoint.ofNat c.val.toNat = .char c := CodePoint.ofNat_toNat (.char c)
  have valid : c.val.toNat < 0x110000 := (CodePoint.toNat_char_range c).2
  rw [← itself]
  unfold String.utf8EncodeChar
  generalize c.val.toNat = code at valid
  dsimp only
  split
  · exact decodeUtf8_one (by omega) rest
  split
  · exact decodeUtf8_two (by omega) (by omega) rest
  split
  · exact decodeUtf8_three (by omega) (by omega) rest
  · exact decodeUtf8_four (by omega) valid rest

/-- The bytes of characters in a row are decoded to them. -/
theorem decodeUtf8_flatMap (text : List Char) :
    decodeUtf8 none (text.flatMap String.utf8EncodeChar) = some (points text) := by
  induction text with
  | nil => rfl
  | cons c rest inductionHypothesis =>
    rw [List.flatMap_cons, decodeUtf8_utf8EncodeChar, inductionHypothesis]
    rfl

/-! ## Announced encodings -/

/-- A printable character is one byte, its code. -/
theorem utf8EncodeChar_eq {c : Char} (printable : 0x20 ≤ c.toNat ∧ c.toNat < 0x7F) :
    String.utf8EncodeChar c = [c.val.toUInt8] := by
  apply String.utf8EncodeChar_eq_singleton
  rw [Char.utf8Size_eq_one_iff, UInt32.le_iff_toNat_le]
  have small : c.val.toNat < 0x7F := printable.2
  have bound : (127 : UInt32).toNat = 127 := rfl
  omega

/-- The code of a printable character is a byte in the printable range. -/
theorem toUInt8_printable {c : Char} (printable : 0x20 ≤ c.toNat ∧ c.toNat < 0x7F) :
    0x20 ≤ c.val.toUInt8 ∧ c.val.toUInt8 < 0x7F := by
  have range : 0x20 ≤ c.val.toNat ∧ c.val.toNat < 0x7F := printable
  rw [UInt8.le_iff_toNat_le, UInt8.lt_iff_toNat_lt, UInt32.toNat_toUInt8]
  have low : (0x20 : UInt8).toNat = 0x20 := rfl
  have high : (0x7F : UInt8).toNat = 0x7F := rfl
  omega

/-- Bytes of which the first two are in the printable range announce UTF-8. -/
theorem announcedEncoding_of_printable {bytes : List UInt8}
    (printable : ∀ byte ∈ bytes.take 2, 0x20 ≤ byte ∧ byte < 0x7F) :
    announcedEncoding bytes = (.utf8, bytes) := by
  have nonzero : ∀ byte ∈ bytes.take 2, (byte == 0) = false := by
    intro byte member
    rw [beq_eq_false_iff_ne]
    rintro rfl
    exact absurd (printable 0 member).1 (by decide)
  have noMark : markedEncoding? bytes = none := by
    unfold markedEncoding?
    split
    case h_6 => rfl
    all_goals exact absurd (printable _ List.mem_cons_self) (by decide)
  have byZeros : encodingByZeros bytes = .utf8 := by
    unfold encodingByZeros
    split
    · next a b c d rest =>
      rw [nonzero a (by simp), nonzero b (by simp)]
      rfl
    · next a b =>
      rw [nonzero a (by simp), nonzero b (by simp)]
      rfl
    · rfl
  rw [announcedEncoding, noMark, byZeros]
  rfl

/-- The bytes of a text that begins with two printable characters, or has no two, are decoded to the
text. -/
theorem decodeBytes_encodeUtf8 {text : List Char} (printable : Printable (text.take 2)) :
    decodeBytes (encodeUtf8 (String.ofList text)) = some (points text) := by
  have announced : announcedEncoding (text.flatMap String.utf8EncodeChar) =
      (.utf8, text.flatMap String.utf8EncodeChar) := by
    refine announcedEncoding_of_printable fun byte member => ?_
    match text with
    | [] => cases member
    | [c] =>
      rw [List.flatMap_singleton, utf8EncodeChar_eq (printable c (by simp))] at member
      rw [List.mem_singleton.1 (List.mem_of_mem_take member)]
      exact toUInt8_printable (printable c (by simp))
    | c :: d :: rest =>
      rw [List.flatMap_cons, List.flatMap_cons, utf8EncodeChar_eq (printable c (by simp)),
        utf8EncodeChar_eq (printable d (by simp))] at member
      change byte ∈ [c.val.toUInt8, d.val.toUInt8] at member
      rcases List.mem_pair.1 member with rfl | rfl
      · exact toUInt8_printable (printable c (by simp))
      · exact toUInt8_printable (printable d (by simp))
  rw [encodeUtf8_ofList, decodeBytes, announced]
  exact decodeUtf8_flatMap text

end DeclCodec.Text
