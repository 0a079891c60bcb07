import MylifeHome.Lib.Bytes
import MylifeHome.Lib.Text

/-!
# The bodies of the mails of the absoluta driver

`decodeBodyContent` reads a body in quoted-printable: a byte is a character or `=` with two
hexadecimal digits, and `=` before the end of a line joins it with the next one. The bytes
that come out are read as UTF-8.
-/
namespace MylifeHome.Plugins.Absoluta

open MylifeHome.Lib
open MylifeHome.Lib.Bytes

/-! ## Decoding -/

/-- `content.toString('ascii')` -/
def asciiText (content : List UInt8) : List Char := content.map fun b => Char.ofNat (b.toNat % 128)

/-- `Buffer.from(text, 'ascii')`: the low byte of each character. -/
def asciiBytes (text : List Char) : List UInt8 := text.map fun c => UInt8.ofNat c.toNat

/-- `String.fromCharCode(code)`; what is not a number is zero. -/
def fromCharCode (code : Option Int) : Char := Char.ofNat (code.getD 0 % 65536).toNat

/-- A part after an equals sign. -/
def formatPart (part : List Char) : List Char :=
  let special := part.take 2
  let rest := part.drop 2
  -- only a new line, to keep rows short
  if special = ['\r', '\n'] then rest
  else fromCharCode (Text.parseHex special) :: rest

/-- The parts, put together again. -/
def reassemble : List (List Char) → List Char
  | [] => []
  | first :: parts => first ++ (parts.map formatPart).flatten

def decodeBodyContent (content : List UInt8) : Units :=
  ofUtf8 (asciiBytes (reassemble ((asciiText content).splitOn '=')))

/-! ## What quoted-printable is -/

/-- The second list is an encoding of the first one. -/
inductive QuotedPrintable : List UInt8 → List UInt8 → Prop where
  | nil : QuotedPrintable [] []
  | literal {b : UInt8} {bytes encoded : List UInt8} (hascii : b.toNat < 128) (hne : b ≠ 0x3D)
    (h : QuotedPrintable bytes encoded) : QuotedPrintable (b :: bytes) (b :: encoded)
  | escape {hi lo : Char} {m n : Nat} {bytes encoded : List UInt8} (hhi : Text.hexValue hi = some m)
    (hlo : Text.hexValue lo = some n) (h : QuotedPrintable bytes encoded) :
    QuotedPrintable (UInt8.ofNat (16 * m + n) :: bytes)
      (0x3D :: UInt8.ofNat hi.toNat :: UInt8.ofNat lo.toNat :: encoded)
  | softBreak {bytes encoded : List UInt8} (h : QuotedPrintable bytes encoded) :
    QuotedPrintable bytes (0x3D :: 0x0D :: 0x0A :: encoded)

/-! ## Each way of writing a byte -/

theorem reassemble_literal {c : Char} (hc : c ≠ '=') (text : List Char) :
    reassemble ((c :: text).splitOn '=') = c :: reassemble (text.splitOn '=') := by
  obtain ⟨first, parts, hsplit⟩ := List.exists_cons_of_ne_nil (List.splitOnP_ne_nil (· == '=') text)
  have hcons : (c :: text).splitOn '=' = (c :: first) :: parts := by
    rw [List.splitOn, List.splitOnP_cons_eq_if_modifyHead, if_neg (by simpa using hc), hsplit]
    rfl
  rw [hcons, List.splitOn, hsplit]
  rfl

/-- The two characters after an equals sign. -/
theorem reassemble_special {a b : Char} (ha : a ≠ '=') (hb : b ≠ '=') (text : List Char) :
    reassemble (('=' :: a :: b :: text).splitOn '=') =
      (if [a, b] = ['\r', '\n'] then [] else [fromCharCode (Text.parseHex [a, b])]) ++
        reassemble (text.splitOn '=') := by
  obtain ⟨first, parts, hsplit⟩ := List.exists_cons_of_ne_nil (List.splitOnP_ne_nil (· == '=') text)
  have hcons : ('=' :: a :: b :: text).splitOn '=' = [] :: (a :: b :: first) :: parts := by
    rw [List.splitOn, List.splitOnP_cons_eq_if_modifyHead, if_pos (by simp),
      List.splitOnP_cons_eq_if_modifyHead, if_neg (by simpa using ha),
        List.splitOnP_cons_eq_if_modifyHead,
      if_neg (by simpa using hb), hsplit]
    rfl
  rw [hcons, List.splitOn, hsplit]
  simp only [reassemble, formatPart, List.map_cons, List.flatten_cons, List.nil_append,
    List.take_succ_cons, List.take_zero, List.drop_succ_cons, List.drop_zero]
  split_ifs <;> simp

theorem asciiText_of_lt {b : UInt8} (h : b.toNat < 128) (content : List UInt8) :
    asciiText (b :: content) = Char.ofNat b.toNat :: asciiText content := by
  rw [asciiText, List.map_cons, Nat.mod_eq_of_lt h]
  rfl

theorem toNat_ofNat_of_lt {n : Nat} (h : n < 0xD800) : (Char.ofNat n).toNat = n :=
  toNat_ofNat_of_valid (.inl h)

/-- An ASCII character as a byte. -/
theorem asciiText_char {c : Char} (h : c.toNat < 128) (content : List UInt8) :
    asciiText (UInt8.ofNat c.toNat :: content) = c :: asciiText content := by
  have hbyte : (UInt8.ofNat c.toNat).toNat = c.toNat :=
    UInt8.toNat_ofNat_of_lt' (Nat.lt_trans h (by decide))
  rw [asciiText_of_lt (by omega), hbyte, Char.ofNat_toNat]

theorem fromCharCode_pair {hi lo : Char} {m n : Nat} (hhi : Text.hexValue hi = some m)
    (hlo : Text.hexValue lo = some n) :
    UInt8.ofNat (fromCharCode (Text.parseHex [hi, lo])).toNat = UInt8.ofNat (16 * m + n) := by
  have hm := Text.hexValue_lt hhi
  have hn := Text.hexValue_lt hlo
  have hcode : (((16 * m + n : Nat) : Int) % 65536).toNat = 16 * m + n := by omega
  rw [Text.parseHex_pair hhi hlo, fromCharCode, Option.getD_some, hcode,
    toNat_ofNat_of_lt (by omega)]

/-- A hexadecimal digit is no equals sign and no carriage return, and it is ASCII. -/
theorem hexValue_plain {c : Char} {n : Nat} (h : Text.hexValue c = some n) : c ≠ '=' ∧ c ≠ '\r' ∧
    c.toNat < 128 := by
  have hrange := Text.hexValue_range h
  refine ⟨?_, ?_, by omega⟩
  · rintro rfl
    simp [Text.hexValue] at h
  · rintro rfl
    simp [Text.hexValue] at h

/-! ## Every encoding -/

/-- The bytes come back from each of their encodings. -/
theorem reassemble_encoded {bytes encoded : List UInt8} (h : QuotedPrintable bytes encoded) :
    asciiBytes (reassemble ((asciiText encoded).splitOn '=')) = bytes := by
  induction h with
  | nil => rfl
  | @literal b bytes encoded hascii hne h ih =>
    have hc : Char.ofNat b.toNat ≠ '=' := by
      intro heq
      have hcode := congrArg Char.toNat heq
      rw [toNat_ofNat_of_lt (by omega)] at hcode
      exact hne (UInt8.toNat_inj.mp hcode)
    rw [asciiText_of_lt hascii, reassemble_literal hc, asciiBytes, List.map_cons,
      toNat_ofNat_of_lt (by omega), UInt8.ofNat_toNat]
    exact congrArg (b :: ·) ih
  | @escape hi lo m n bytes encoded hhi hlo h ih =>
    obtain ⟨hhi₁, hhi₂, hhi₃⟩ := hexValue_plain hhi
    obtain ⟨hlo₁, -, hlo₃⟩ := hexValue_plain hlo
    have hbreak : [hi, lo] ≠ ['\r', '\n'] := fun heq => hhi₂ (List.cons.inj heq).1
    rw [asciiText_of_lt (by decide), asciiText_char hhi₃, asciiText_char hlo₃]
    show asciiBytes (reassemble (('=' :: hi :: lo :: asciiText encoded).splitOn '=')) = _
    rw [reassemble_special hhi₁ hlo₁, if_neg hbreak, asciiBytes, List.singleton_append,
      List.map_cons, fromCharCode_pair hhi hlo]
    exact congrArg (_ :: ·) ih
  | @softBreak bytes encoded h ih =>
    show asciiBytes (reassemble (('=' :: '\r' :: '\n' :: asciiText encoded).splitOn '=')) = _
    rw [reassemble_special (by decide) (by decide), if_pos rfl, List.nil_append]
    exact ih

/-- Every encoding of a well-formed text is decoded to the text. -/
theorem decode_quoted_printable (text : Units) (encoded : List UInt8)
    (htext : wellFormed text = true)
    (h : QuotedPrintable (utf8 text) encoded) : decodeBodyContent encoded = text := by
  rw [decodeBodyContent, reassemble_encoded h]
  exact ofUtf8_utf8_eq_iff.mpr htext

/-- The two bytes of an accented letter, in capitals and in small letters, with a row that ends
between them. -/
theorem decode_accented :
    decodeBodyContent ("=C3=\r\n=a9!".toList.map fun c => UInt8.ofNat c.toNat) = [0xE9, 0x21] := by
  have hutf8 : utf8 [0xE9, 0x21] =
    [UInt8.ofNat (16 * 12 + 3), UInt8.ofNat (16 * 10 + 9), 0x21] := by decide +kernel
  refine decode_quoted_printable _ _ (by decide) (hutf8 ▸ ?_)
  have hlast : QuotedPrintable [0x21] [0x21] := .literal (by decide) (by decide) .nil
  have hnext := @QuotedPrintable.escape 'a' '9' 10 9 _ _ rfl rfl hlast
  exact @QuotedPrintable.escape 'C' '3' 12 3 _ _ rfl rfl (.softBreak hnext)

end MylifeHome.Plugins.Absoluta
