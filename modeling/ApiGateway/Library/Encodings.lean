import Mathlib.Data.List.GetD
import Mathlib.Data.List.Nodup

/-!
# Bytes as text

Three ways to write bytes as characters and to read them back: two hexadecimal
digits for each byte, four letters of a 64-letter alphabet for each three bytes,
and the Unicode encoding in one to four bytes for each character.

Reading hexadecimal digits ignores their case, and reading the 64-letter alphabet
skips blanks. Reading the Unicode encoding never fails: the longest start of a
character that is not completed is read as one replacement character.

Each reading undoes its writing. Only for the Unicode encoding are there bytes
that no text is written as; these are the bytes that reading and writing again
do not restore.
-/

namespace ApiGateway.Encodings

/-- The byte of a value. -/
def byteOf (value : Nat) : UInt8 := UInt8.ofNat value

theorem byteOf_eq {byte : UInt8} {value : Nat} (same : value = byte.toNat) : byteOf value = byte := by
  rw [byteOf, same]
  exact UInt8.ofNat_toNat

section Hexadecimal

/-- The digit of a value below 16, in upper case. -/
def hexDigit (value : Nat) : Char := "0123456789ABCDEF".toList.getD value '0'

/-- The value of a digit in either case. -/
def hexValue (digit : Char) : Option Nat :=
  let code := digit.toNat
  if 48 ≤ code ∧ code ≤ 57 then some (code - 48)
  else if 65 ≤ code ∧ code ≤ 70 then some (code - 55)
  else if 97 ≤ code ∧ code ≤ 102 then some (code - 87)
  else none

/-- Two digits for each byte, the high one first. -/
def toHex (bytes : List UInt8) : List Char :=
  bytes.flatMap (fun byte => [hexDigit (byte.toNat / 16), hexDigit (byte.toNat % 16)])

/-- The bytes that pairs of digits are; none for anything else. -/
def fromHex : List Char → Option (List UInt8)
  | [] => some []
  | [_] => none
  | high :: low :: rest => do
    let upper ← hexValue high
    let lower ← hexValue low
    let bytes ← fromHex rest
    some (byteOf (16 * upper + lower) :: bytes)

theorem hexValue_digit (value : Fin 16) : hexValue (hexDigit value.val) = some value.val := by
  revert value
  decide

theorem fromHex_toHex (bytes : List UInt8) : fromHex (toHex bytes) = some bytes := by
  induction bytes with
  | nil => rfl
  | cons byte rest ih =>
    have bounded : byte.toNat < 256 := byte.toNat_lt
    have upper := hexValue_digit ⟨byte.toNat / 16, by omega⟩
    have lower := hexValue_digit ⟨byte.toNat % 16, by omega⟩
    have whole : byteOf (16 * (byte.toNat / 16) + byte.toNat % 16) = byte := byteOf_eq (by omega)
    simp only [toHex, List.flatMap_cons, List.cons_append, List.nil_append, fromHex] at ih ⊢
    simp only [upper, lower, ih, whole, Option.bind_eq_bind, Option.bind_some]

end Hexadecimal

section Base64

/-- The 64 letters in the order of their values. -/
def alphabet : List Char :=
  "ABCDEFGHIJKLMNOPQRSTUVWXYZabcdefghijklmnopqrstuvwxyz0123456789+/".toList

/-- The letter of a value below 64. -/
def base64Digit (value : Nat) : Char := alphabet.getD value '='

/-- The value of a letter. -/
def base64Value (letter : Char) : Option Nat := alphabet.findIdx? (fun other => other == letter)

/-- Four letters for three bytes; an incomplete last group is padded. -/
def toBase64 : List UInt8 → List Char
  | [] => []
  | [first] =>
    [base64Digit (first.toNat / 4), base64Digit (first.toNat % 4 * 16), '=', '=']
  | [first, second] =>
    [base64Digit (first.toNat / 4), base64Digit (first.toNat % 4 * 16 + second.toNat / 16),
      base64Digit (second.toNat % 16 * 4), '=']
  | first :: second :: third :: rest =>
    base64Digit (first.toNat / 4) :: base64Digit (first.toNat % 4 * 16 + second.toNat / 16) ::
      base64Digit (second.toNat % 16 * 4 + third.toNat / 64) :: base64Digit (third.toNat % 64) ::
        toBase64 rest

/-- The bytes of groups of four letters, the last of which may be padded. -/
def readGroups : List Char → Option (List UInt8)
  | [] => some []
  | first :: second :: third :: fourth :: rest => do
    let high ← base64Value first
    let next ← base64Value second
    if third = '=' ∧ fourth = '=' ∧ rest = [] then
      some [byteOf (high * 4 + next / 16)]
    else
      let middle ← base64Value third
      if fourth = '=' ∧ rest = [] then
        some [byteOf (high * 4 + next / 16), byteOf (next % 16 * 16 + middle / 4)]
      else
        let low ← base64Value fourth
        let bytes ← readGroups rest
        some (byteOf (high * 4 + next / 16) :: byteOf (next % 16 * 16 + middle / 4) ::
          byteOf (middle % 4 * 64 + low) :: bytes)
  | _ => none

/-- Blanks, which reading skips. -/
def isBlank (character : Char) : Bool :=
  character == ' ' || character == '\t' || character == '\n' || character == '\r'

/-- The bytes that letters and blanks are; none for anything else. -/
def fromBase64 (text : List Char) : Option (List UInt8) :=
  readGroups (text.filter (fun character => !isBlank character))

theorem alphabet_length : alphabet.length = 64 := by
  unfold alphabet
  rw [String.toList_ofList]
  rfl

theorem alphabet_nodup : alphabet.Nodup := by
  unfold alphabet
  rw [String.toList_ofList]
  decide +kernel

/-- No letter of the alphabet is the padding or a blank. -/
theorem alphabet_letter {letter : Char} (member : letter ∈ alphabet) :
    letter ≠ '=' ∧ isBlank letter = false := by
  have all : alphabet.all (fun letter => letter != '=' && !isBlank letter) = true := by
    unfold alphabet
    rw [String.toList_ofList]
    decide +kernel
  simpa using List.all_eq_true.mp all letter member

theorem base64Digit_mem {value : Nat} (small : value < 64) : base64Digit value ∈ alphabet := by
  have bounded : value < alphabet.length := by rwa [alphabet_length]
  rw [base64Digit, List.getD_eq_getElem _ _ bounded]
  exact List.getElem_mem bounded

/-- A letter stands in the alphabet at its value and nowhere else. -/
theorem base64Value_digit {value : Nat} (small : value < 64) :
    base64Value (base64Digit value) = some value := by
  have bounded : value < alphabet.length := by rwa [alphabet_length]
  rw [base64Digit, List.getD_eq_getElem _ _ bounded, base64Value,
    List.findIdx?_eq_some_iff_getElem]
  refine ⟨bounded, by simp, fun earlier before same => ?_⟩
  exact absurd (alphabet_nodup.getElem_inj_iff.mp (by simpa using same)) (Nat.ne_of_lt before)

theorem base64Digit_ne_padding {value : Nat} (small : value < 64) : base64Digit value ≠ '=' :=
  (alphabet_letter (base64Digit_mem small)).1

@[simp] theorem base64Digit_not_blank (value : Nat) : isBlank (base64Digit value) = false := by
  by_cases small : value < 64
  · exact (alphabet_letter (base64Digit_mem small)).2
  · have beyond : alphabet.length ≤ value := by
      rw [alphabet_length]
      exact Nat.le_of_not_lt small
    rw [base64Digit, List.getD_eq_getElem?_getD, List.getElem?_eq_none beyond]
    rfl

@[simp] theorem padding_not_blank : isBlank '=' = false := rfl

/-- Writing yields no blanks. -/
theorem toBase64_not_blank (bytes : List UInt8) :
    ∀ character ∈ toBase64 bytes, isBlank character = false := by
  fun_induction toBase64 bytes with
  | case1 => simp
  | case2 first => simp
  | case3 first second => simp
  | case4 first second third rest ih => simpa using ih

/-- Writing yields letters and padding. -/
theorem toBase64_mem (bytes : List UInt8) :
    ∀ character ∈ toBase64 bytes, character = '=' ∨ character ∈ alphabet := by
  have digit : ∀ value, base64Digit value = '=' ∨ base64Digit value ∈ alphabet := by
    intro value
    by_cases small : value < 64
    · exact Or.inr (base64Digit_mem small)
    · have beyond : alphabet.length ≤ value := by
        rw [alphabet_length]
        exact Nat.le_of_not_lt small
      left
      rw [base64Digit, List.getD_eq_getElem?_getD, List.getElem?_eq_none beyond]
      rfl
  fun_induction toBase64 bytes with
  | case1 => simp
  | case2 first => simp [digit]
  | case3 first second => simp [digit]
  | case4 first second third rest ih => simpa [digit] using ih

theorem readGroups_toBase64 (bytes : List UInt8) : readGroups (toBase64 bytes) = some bytes := by
  fun_induction toBase64 bytes with
  | case1 => rfl
  | case2 first =>
    have bounded := first.toNat_lt
    simp (disch := omega) [readGroups, base64Value_digit]
    exact byteOf_eq (by omega)
  | case3 first second =>
    have bounded := first.toNat_lt
    have also := second.toNat_lt
    have former : byteOf (first.toNat / 4 * 4 + (first.toNat % 4 * 16 + second.toNat / 16) / 16) =
        first := byteOf_eq (by omega)
    simp (disch := omega) [readGroups, base64Value_digit, base64Digit_ne_padding, former]
    exact byteOf_eq (by omega)
  | case4 first second third rest ih =>
    have bounded := first.toNat_lt
    have also := second.toNat_lt
    have last := third.toNat_lt
    have former : byteOf (first.toNat / 4 * 4 + (first.toNat % 4 * 16 + second.toNat / 16) / 16) =
        first := byteOf_eq (by omega)
    simp (disch := omega) [readGroups, base64Value_digit, base64Digit_ne_padding, former, ih]
    exact ⟨byteOf_eq (by omega), byteOf_eq (by omega)⟩

theorem fromBase64_toBase64 (bytes : List UInt8) : fromBase64 (toBase64 bytes) = some bytes := by
  have kept : (toBase64 bytes).filter (fun character => !isBlank character) = toBase64 bytes :=
    List.filter_eq_self.mpr (fun character member => by simp [toBase64_not_blank bytes character member])
  rw [fromBase64, kept, readGroups_toBase64]

end Base64

section Utf8

/-- The Unicode encoding of each character in turn. -/
def toUtf8 (text : List Char) : List UInt8 := text.flatMap String.utf8EncodeChar

/-- The character whose encoding comes first, if one does. -/
def firstChar (bytes : List UInt8) : Option Char := bytes.toByteArray.utf8DecodeChar? 0

/-- A byte that continues a character. -/
def continues (byte : UInt8) : Bool := 0x80 ≤ byte && byte ≤ 0xBF

/-- The second byte can follow the first in some character of three or four bytes. -/
def canFollow (first second : UInt8) : Bool :=
  if first = 0xE0 then 0xA0 ≤ second && second ≤ 0xBF
  else if first = 0xED then 0x80 ≤ second && second ≤ 0x9F
  else if 0xE1 ≤ first && first ≤ 0xEF then continues second
  else if first = 0xF0 then 0x90 ≤ second && second ≤ 0xBF
  else if 0xF1 ≤ first && first ≤ 0xF3 then continues second
  else if first = 0xF4 then 0x80 ≤ second && second ≤ 0x8F
  else false

/-- How many bytes are replaced together where no character comes first: the
longest start of a character, or one byte. -/
def replacedTogether : List UInt8 → Nat
  | first :: second :: rest =>
    if canFollow first second then
      match rest with
      | third :: _ => if 0xF0 ≤ first && continues third then 3 else 2
      | [] => 2
    else 1
  | _ => 1

/-- The character read in place of bytes that are none. -/
def replacementChar : Char := Char.ofNat 0xFFFD

/-- Read at most so many characters. -/
def readChars : Nat → List UInt8 → List Char
  | 0, _ => []
  | _ + 1, [] => []
  | fuel + 1, byte :: rest =>
    match firstChar (byte :: rest) with
    | some character => character :: readChars fuel ((byte :: rest).drop character.utf8Size)
    | none => replacementChar :: readChars fuel ((byte :: rest).drop (replacedTogether (byte :: rest)))

/-- Every byte begins at most one character. -/
def fromUtf8 (bytes : List UInt8) : List Char := readChars bytes.length bytes

/-- The bytes are the encoding of some text. -/
def WellFormed (bytes : List UInt8) : Prop := ∃ text, toUtf8 text = bytes

theorem firstChar_encoded (character : Char) (rest : List UInt8) :
    firstChar (String.utf8EncodeChar character ++ rest) = some character := by
  rw [firstChar, List.toByteArray_append]
  exact ByteArray.utf8DecodeChar?_utf8EncodeChar_append

theorem readChars_toUtf8 (text : List Char) {fuel : Nat} (enough : text.length ≤ fuel) :
    readChars fuel (toUtf8 text) = text := by
  induction text generalizing fuel with
  | nil => cases fuel <;> rfl
  | cons character rest ih =>
    obtain ⟨fewer, rfl⟩ : ∃ fewer, fuel = fewer + 1 := ⟨fuel - 1, by simp at enough; omega⟩
    have encoded : toUtf8 (character :: rest) = String.utf8EncodeChar character ++ toUtf8 rest := rfl
    have first := firstChar_encoded character (toUtf8 rest)
    have after : (String.utf8EncodeChar character ++ toUtf8 rest).drop character.utf8Size =
        toUtf8 rest := by
      rw [← String.length_utf8EncodeChar, List.drop_left]
    have shorter := @ih fewer (by simpa using enough)
    rw [encoded]
    cases bytes : String.utf8EncodeChar character ++ toUtf8 rest with
    | nil =>
      rw [bytes] at first
      cases first
    | cons byte others =>
      rw [bytes] at first after
      rw [readChars, first]
      dsimp only
      rw [after, shorter]

theorem length_le_toUtf8 (text : List Char) : text.length ≤ (toUtf8 text).length := by
  induction text with
  | nil => exact Nat.le_refl 0
  | cons character rest ih =>
    have positive := character.utf8Size_pos
    simp only [toUtf8, List.flatMap_cons, List.length_append, List.length_cons,
      String.length_utf8EncodeChar] at ih ⊢
    omega

theorem fromUtf8_toUtf8 (text : List Char) : fromUtf8 (toUtf8 text) = text :=
  readChars_toUtf8 text (length_le_toUtf8 text)

/-- Reading and writing again restores exactly the bytes that are well formed. -/
theorem toUtf8_fromUtf8_iff (bytes : List UInt8) :
    toUtf8 (fromUtf8 bytes) = bytes ↔ WellFormed bytes := by
  constructor
  · exact fun restored => ⟨fromUtf8 bytes, restored⟩
  · rintro ⟨text, rfl⟩
    rw [fromUtf8_toUtf8]

example : fromUtf8 [0x61, 0xE2, 0x82, 0xFF] = ['a', replacementChar, replacementChar] := by
  decide +kernel

end Utf8

end ApiGateway.Encodings
