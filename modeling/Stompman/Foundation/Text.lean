import Mathlib.Data.List.Basic
import Mathlib.Tactic.IntervalCases

/-!
# Text, UTF-8 bytes and decimal integers

Byte strings are lists of octets.  Text is encoded to UTF-8 and decoded strictly: the decoder
accepts exactly the encodings of sequences of Unicode scalar values.  The second half follows the
documented behaviour of `int` and `str` on decimal text: surrounding white space, one sign,
decimal digits of any script, single underscores between digits, and the interpreter's limit on
the number of digits in a conversion.
-/

namespace Foundation

/-- A byte string. -/
abbrev Bytes := List UInt8

namespace Text

/-! ## UTF-8 -/

/-- `str.encode()`. -/
def encode (text : String) : Bytes := text.toList.flatMap String.utf8EncodeChar

/-- `bytes.decode()`; `none` is `UnicodeDecodeError`. -/
def decode (bytes : Bytes) : Option String := String.fromUTF8? bytes.toByteArray

theorem encode_toByteArray (text : String) : (encode text).toByteArray = text.toByteArray := by
  rw [← String.utf8Encode_toList]
  rfl

theorem decode_encode (text : String) : decode (encode text) = some text := by
  rw [decode, encode_toByteArray, String.fromUTF8?, dif_pos text.isValidUTF8]
  rfl

theorem encode_of_decode {bytes : Bytes} {text : String} (decoded : decode bytes = some text) :
    encode text = bytes := by
  rw [decode, String.fromUTF8?] at decoded
  split at decoded
  · obtain rfl := Option.some.inj decoded
    apply List.toByteArray_inj.mp
    rw [encode_toByteArray]
    rfl
  · contradiction

@[simp]
theorem encode_append (left right : String) :
    encode (left ++ right) = encode left ++ encode right := by
  simp [encode]

theorem encode_ofList (chars : List Char) :
    encode (String.ofList chars) = chars.flatMap String.utf8EncodeChar := by
  simp [encode]

/-- An ASCII character is encoded as its own code. -/
theorem utf8EncodeChar_of_ascii {char : Char} (ascii : char.toNat < 128) :
    String.utf8EncodeChar char = [UInt8.ofNat char.toNat] := by
  have small : char.val.toNat ≤ 127 := Nat.le_of_lt_succ ascii
  rw [String.utf8EncodeChar, if_pos small]
  rfl

/-- The encoding of a character outside ASCII has no byte below 128. -/
theorem le_of_mem_utf8EncodeChar {char : Char} (beyond : 128 ≤ char.toNat) {byte : UInt8}
    (member : byte ∈ String.utf8EncodeChar char) : 128 ≤ byte.toNat := by
  have large : ¬ char.val.toNat ≤ 127 := Nat.not_le_of_lt beyond
  rw [String.utf8EncodeChar] at member
  simp only [large, if_false] at member
  split at member
  · simp only [List.mem_cons, List.not_mem_nil, or_false] at member
    rcases member with rfl | rfl <;> simp only [UInt8.toNat_ofNat'] <;> omega
  · split at member
    · simp only [List.mem_cons, List.not_mem_nil, or_false] at member
      rcases member with rfl | rfl | rfl <;> simp only [UInt8.toNat_ofNat'] <;> omega
    · simp only [List.mem_cons, List.not_mem_nil, or_false] at member
      rcases member with rfl | rfl | rfl | rfl <;> simp only [UInt8.toNat_ofNat'] <;> omega

/-- A byte below 128 occurs in the encoding of a character only when it is that character. -/
theorem toNat_of_mem_utf8EncodeChar {char : Char} {byte : UInt8} (small : byte.toNat < 128)
    (member : byte ∈ String.utf8EncodeChar char) : byte.toNat = char.toNat := by
  by_cases ascii : char.toNat < 128
  · rw [utf8EncodeChar_of_ascii ascii, List.mem_singleton] at member
    rw [member, UInt8.toNat_ofNat']
    omega
  · have := le_of_mem_utf8EncodeChar (Nat.le_of_not_lt ascii) member
    omega

/-- The code of an ASCII character as a byte. -/
def asciiByte (char : Char) : UInt8 := UInt8.ofNat char.toNat

/-- An ASCII byte occurs in an encoding exactly when its character occurs in the text. -/
theorem mem_encode_iff {char : Char} (ascii : char.toNat < 128) (text : String) :
    asciiByte char ∈ encode text ↔ char ∈ text.toList := by
  have byte_val : (asciiByte char).toNat = char.toNat := by
    rw [asciiByte, UInt8.toNat_ofNat']
    omega
  rw [encode, List.mem_flatMap]
  constructor
  · rintro ⟨other, member, found⟩
    have same := toNat_of_mem_utf8EncodeChar (by omega) found
    rw [byte_val] at same
    rwa [Char.toNat_inj.mp same]
  · intro member
    refine ⟨char, member, ?_⟩
    rw [utf8EncodeChar_of_ascii ascii]
    exact List.mem_singleton_self _

/-! ## Decimal integers -/

/-- First code points of the runs of ten decimal digits (category `Nd`), each run in order of value.
The runs are those of Unicode 14, which Python 3.11 has; later versions accept the digits of further
scripts. -/
def decimalZeros : List Nat :=
  0x30 ::
    [0x660, 0x6f0, 0x7c0, 0x966, 0x9e6, 0xa66, 0xae6, 0xb66, 0xbe6, 0xc66, 0xce6, 0xd66, 0xde6,
    0xe50, 0xed0, 0xf20, 0x1040, 0x1090, 0x17e0, 0x1810, 0x1946, 0x19d0, 0x1a80, 0x1a90, 0x1b50,
    0x1bb0, 0x1c40, 0x1c50, 0xa620, 0xa8d0, 0xa900, 0xa9d0, 0xa9f0, 0xaa50, 0xabf0, 0xff10, 0x104a0,
    0x10d30, 0x11066, 0x110f0, 0x11136, 0x111d0, 0x112f0, 0x11450, 0x114d0, 0x11650, 0x116c0,
    0x11730, 0x118e0, 0x11950, 0x11c50, 0x11d50, 0x11da0, 0x16a60, 0x16ac0, 0x16b50, 0x1d7ce,
    0x1d7d8, 0x1d7e2, 0x1d7ec, 0x1d7f6, 0x1e140, 0x1e2f0, 0x1e950, 0x1fbf0]

/-- The decimal value of a character, if it is a digit of some script. -/
def decimalValue? (char : Char) : Option Nat :=
  (decimalZeros.find? fun first => first ≤ char.toNat && char.toNat < first + 10).map
    fun first => char.toNat - first

/-- White space that `int` strips.  The ASCII separators `0x1c` to `0x1f` are not in it. -/
def isSpace (char : Char) : Bool :=
  let code := char.toNat
  (0x9 ≤ code && code ≤ 0xd) || code == 0x20 || code == 0x85 || code == 0xa0 || code == 0x1680 ||
    (0x2000 ≤ code && code ≤ 0x200a) || code == 0x2028 || code == 0x2029 || code == 0x202f ||
    code == 0x205f || code == 0x3000

/-- Remove white space at both ends. -/
def strip (chars : List Char) : List Char :=
  ((chars.dropWhile isSpace).reverse.dropWhile isSpace).reverse

/-- Values of a non-empty run of digits in which single underscores may separate two digits. -/
def decimalDigits : List Char → Option (List Nat)
  | [] => none
  | [char] => (decimalValue? char).map fun digit => [digit]
  | char :: next :: rest =>
      (decimalValue? char).bind fun digit =>
        (if next = '_' then decimalDigits rest else decimalDigits (next :: rest)).map
          fun digits => digit :: digits

/-- `sys.int_info.default_max_str_digits`. -/
def maxStrDigits : Nat := 4300

/-- An unsigned decimal literal. -/
def parseNat (chars : List Char) : Option Nat :=
  (decimalDigits chars).bind fun digits =>
    if digits.length ≤ maxStrDigits then
      some (digits.foldl (fun value digit => 10 * value + digit) 0)
    else none

/-- `int(text)`; `none` is `ValueError`. -/
def int (text : String) : Option Int :=
  match strip text.toList with
  | '-' :: chars => (parseNat chars).map fun value => -(value : Int)
  | '+' :: chars => (parseNat chars).map fun value => (value : Int)
  | chars => (parseNat chars).map fun value => (value : Int)

/-- `str(value)` of a natural number; `none` is the `ValueError` of a number with too many
digits. -/
def str (value : Nat) : Option String :=
  if (Nat.toDigits 10 value).length ≤ maxStrDigits then some (toString value) else none

theorem decimalValue?_of_isDigit {char : Char} (digit : char.isDigit) :
    decimalValue? char = some (char.toNat - '0'.toNat) := by
  have bounds : 48 ≤ char.toNat ∧ char.toNat ≤ 57 := Char.isDigit_iff_toNat.mp digit
  rw [decimalValue?, decimalZeros, List.find?_cons_of_pos]
  · rfl
  · simp only [Bool.and_eq_true, decide_eq_true_eq]
    omega

theorem decimalDigits_of_isDigit (char : Char) (chars : List Char)
    (digits : ∀ item ∈ char :: chars, item.isDigit) :
    decimalDigits (char :: chars) =
      some ((char :: chars).map fun item => item.toNat - '0'.toNat) := by
  induction chars generalizing char with
  | nil =>
      rw [decimalDigits, decimalValue?_of_isDigit (digits char List.mem_cons_self)]
      rfl
  | cons next rest ih =>
      have next_ne : next ≠ '_' := by
        rintro rfl
        exact absurd (digits '_' (by simp)) (by decide)
      rw [decimalDigits, decimalValue?_of_isDigit (digits char List.mem_cons_self),
        if_neg next_ne, ih next fun item member => digits item (List.mem_cons_of_mem _ member)]
      rfl

theorem parseNat_of_isDigit (chars : List Char) (nonempty : chars ≠ [])
    (digits : ∀ item ∈ chars, item.isDigit) (short : chars.length ≤ maxStrDigits) :
    parseNat chars = some (Nat.ofDigitChars 10 chars 0) := by
  cases chars with
  | nil => exact absurd rfl nonempty
  | cons char chars =>
      rw [parseNat, decimalDigits_of_isDigit char chars digits]
      simp only [Option.bind_some, List.length_map, short, if_true, Nat.ofDigitChars,
        List.foldl_map]

theorem dropWhile_isSpace_of_isDigit {chars : List Char}
    (digits : ∀ item ∈ chars, item.isDigit) : chars.dropWhile isSpace = chars := by
  cases chars with
  | nil => rfl
  | cons char chars =>
      have bounds : 48 ≤ char.toNat ∧ char.toNat ≤ 57 :=
        Char.isDigit_iff_toNat.mp (digits char List.mem_cons_self)
      rw [List.dropWhile_cons_of_neg]
      simp only [isSpace, Bool.or_eq_true, Bool.and_eq_true, decide_eq_true_eq, beq_iff_eq]
      omega

/-- `int` inverts `str` on natural numbers. -/
theorem int_of_str {value : Nat} {text : String} (printed : str value = some text) :
    int text = some (value : Int) := by
  rw [str] at printed
  split at printed
  · rename_i short
    obtain rfl := Option.some.inj printed
    have chars_eq : (toString value).toList = Nat.toDigits 10 value := Nat.toList_repr
    have digits : ∀ item ∈ Nat.toDigits 10 value, item.isDigit := fun item member =>
      Nat.isDigit_of_mem_toDigits (by decide) (by decide) member
    have stripped : strip (Nat.toDigits 10 value) = Nat.toDigits 10 value := by
      rw [strip, dropWhile_isSpace_of_isDigit digits, dropWhile_isSpace_of_isDigit,
        List.reverse_reverse]
      intro item member
      exact digits item (List.mem_reverse.mp member)
    have parsed : parseNat (Nat.toDigits 10 value) = some value := by
      rw [parseNat_of_isDigit _ Nat.toDigits_ne_nil digits short,
        Nat.ofDigitChars_ten_toDigits]
    rw [int, chars_eq, stripped]
    split
    · rename_i chars shape
      exact absurd (digits '-' (by simp [shape])) (by decide)
    · rename_i chars shape
      exact absurd (digits '+' (by simp [shape])) (by decide)
    · rw [parsed]
      rfl
  · contradiction

/-! ## Percent decoding -/

/-- Value of a hexadecimal digit. -/
def hexValue (char : Char) : Option UInt8 :=
  let code := char.toNat
  if 0x30 ≤ code ∧ code ≤ 0x39 then some (UInt8.ofNat (code - 0x30))
  else if 0x41 ≤ code ∧ code ≤ 0x46 then some (UInt8.ofNat (code - 0x37))
  else if 0x61 ≤ code ∧ code ≤ 0x66 then some (UInt8.ofNat (code - 0x57))
  else none

/-- `unquote_to_bytes` of a run of ASCII characters. -/
def unquoteToBytes : List Char → Bytes
  | [] => []
  | [char] => [asciiByte char]
  | [first, second] => [asciiByte first, asciiByte second]
  | mark :: high :: low :: rest =>
      match hexValue high, hexValue low with
      | some left, some right =>
          if mark = '%' then (16 * left + right) :: unquoteToBytes rest
          else asciiByte mark :: unquoteToBytes (high :: low :: rest)
      | _, _ => asciiByte mark :: unquoteToBytes (high :: low :: rest)

/-- For the first byte of a multi-byte sequence: how many continuation bytes follow, and the range
of the first of them. -/
def utf8Lead (byte : UInt8) : Option (Nat × UInt8 × UInt8) :=
  if 0xc2 ≤ byte ∧ byte ≤ 0xdf then some (1, 0x80, 0xbf)
  else if byte = 0xe0 then some (2, 0xa0, 0xbf)
  else if byte = 0xed then some (2, 0x80, 0x9f)
  else if 0xe1 ≤ byte ∧ byte ≤ 0xef then some (2, 0x80, 0xbf)
  else if byte = 0xf0 then some (3, 0x90, 0xbf)
  else if byte = 0xf4 then some (3, 0x80, 0x8f)
  else if 0xf1 ≤ byte ∧ byte ≤ 0xf3 then some (3, 0x80, 0xbf)
  else none

/-- The longest run of at most `count` continuation bytes, the first of them in a given range. -/
def continuation : Nat → UInt8 → UInt8 → Bytes → Bytes
  | 0, _, _, _ => []
  | _, _, _, [] => []
  | count + 1, low, high, byte :: bytes =>
      if low ≤ byte ∧ byte ≤ high then byte :: continuation count 0x80 0xbf bytes else []

/-- `bytes.decode("utf-8", "replace")` of at most `fuel` bytes: each maximal part of an invalid
sequence becomes one replacement character. -/
def decodeReplace : Nat → Bytes → List Char
  | 0, _ => []
  | _, [] => []
  | fuel + 1, byte :: bytes =>
      if byte < 0x80 then Char.ofNat byte.toNat :: decodeReplace fuel bytes
      else
        match utf8Lead byte with
        | none => '\uFFFD' :: decodeReplace fuel bytes
        | some (count, low, high) =>
            let tail := continuation count low high bytes
            let char :=
              if tail.length = count then
                Char.ofNat (tail.foldl (fun code next => 64 * code + next.toNat % 64)
                  (byte.toNat % 2 ^ (6 - count)))
              else '\uFFFD'
            char :: decodeReplace fuel (bytes.drop tail.length)

/-- `urllib.parse.unquote`: percent sequences are decoded in each run of ASCII characters. -/
def unquote (text : String) : String :=
  let runs := text.toList.splitBy fun left right => (left.toNat < 128) == (right.toNat < 128)
  String.ofList <| runs.flatMap fun run =>
    if run.all fun char => char.toNat < 128 then
      let bytes := unquoteToBytes run
      decodeReplace bytes.length bytes
    else run

end Text

end Foundation
