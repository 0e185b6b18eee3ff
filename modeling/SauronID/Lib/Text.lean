import Mathlib.Data.List.Basic

/-!
# Text and bytes

The string operations of a systems language that the models below rely on:
trimming of Unicode white space, ASCII case folding, hexadecimal text and
length-prefixed byte strings. Everything is computable, on the characters of a
`String` or on lists of bytes.
-/

namespace SauronID.Text

/-- A byte string. -/
abbrev Bytes := List UInt8

/-- The UTF-8 bytes of a string. -/
def utf8 (s : String) : Bytes := s.toUTF8.data.toList

/-- `String::from_utf8` -/
def fromUtf8 (bytes : Bytes) : Option String := String.fromUTF8? ⟨bytes.toArray⟩

/-- The characters with the Unicode property `White_Space`. -/
def isWhiteSpace (c : Char) : Bool :=
  let n := c.toNat
  (9 ≤ n && n ≤ 13) || n == 0x20 || n == 0x85 || n == 0xA0 || n == 0x1680 ||
    (0x2000 ≤ n && n ≤ 0x200A) || n == 0x2028 || n == 0x2029 || n == 0x202F ||
    n == 0x205F || n == 0x3000

/-- Remove white space at both ends. -/
def trim (s : String) : String :=
  String.ofList ((s.toList.dropWhile isWhiteSpace).reverse.dropWhile isWhiteSpace).reverse

/-- Lower-case `A`–`Z`; every other character stays. -/
def asciiLowerChar (c : Char) : Char :=
  if 'A' ≤ c ∧ c ≤ 'Z' then Char.ofNat (c.toNat + 32) else c

def asciiLower (s : String) : String := String.ofList (s.toList.map asciiLowerChar)

/-- Upper-case `a`–`z`; every other character stays. -/
def asciiUpperChar (c : Char) : Char :=
  if 'a' ≤ c ∧ c ≤ 'z' then Char.ofNat (c.toNat - 32) else c

def asciiUpper (s : String) : String := String.ofList (s.toList.map asciiUpperChar)

def isAsciiHexdigit (c : Char) : Bool :=
  ('0' ≤ c && c ≤ '9') || ('a' ≤ c && c ≤ 'f') || ('A' ≤ c && c ≤ 'F')

def eqIgnoreAsciiCase (a b : String) : Bool := asciiLower a == asciiLower b

/-- `sub` occurs in the text. -/
def containsChars (sub : List Char) : List Char → Bool
  | [] => sub.isEmpty
  | c :: cs => sub.isPrefixOf (c :: cs) || containsChars sub cs

def contains (s sub : String) : Bool := containsChars sub.toList s.toList

def startsWith (s start : String) : Bool := start.toList.isPrefixOf s.toList

/-- At most `n` parts, split at the first separators. -/
def splitnChars (sep : Char) : ℕ → List Char → List (List Char)
  | 0, _ => []
  | 1, cs => [cs]
  | n + 2, cs =>
    match cs.dropWhile (· != sep) with
    | [] => [cs]
    | _ :: rest => cs.takeWhile (· != sep) :: splitnChars sep (n + 1) rest

/-- `str::splitn` -/
def splitn (n : ℕ) (sep : Char) (s : String) : List String :=
  (splitnChars sep n s.toList).map String.ofList

/-- Remove a character at the end, as often as it stands there. -/
def trimEndMatches (s : String) (c : Char) : String :=
  String.ofList (s.toList.reverse.dropWhile (· == c)).reverse

/-- The UTF-16 code units of a string. -/
def utf16 (s : String) : List ℕ :=
  s.toList.flatMap fun c =>
    if c.toNat < 0x10000 then [c.toNat]
    else [0xD800 + (c.toNat - 0x10000) / 0x400, 0xDC00 + (c.toNat - 0x10000) % 0x400]

/-! ## Hexadecimal -/

def hexDigit (n : ℕ) : Char := "0123456789abcdef".toList.getD n '0'

/-- Lower-case hexadecimal text, two digits per byte. -/
def hexEncode (bs : Bytes) : String :=
  String.ofList (bs.flatMap fun b => [hexDigit (b.toNat / 16), hexDigit (b.toNat % 16)])

def hexValue (c : Char) : Option ℕ :=
  if '0' ≤ c ∧ c ≤ '9' then some (c.toNat - 48)
  else if 'a' ≤ c ∧ c ≤ 'f' then some (c.toNat - 87)
  else if 'A' ≤ c ∧ c ≤ 'F' then some (c.toNat - 55)
  else none

def hexDecodeChars : List Char → Option Bytes
  | [] => some []
  | [_] => none
  | hi :: lo :: rest => do
    let h ← hexValue hi
    let l ← hexValue lo
    let bs ← hexDecodeChars rest
    return UInt8.ofNat (16 * h + l) :: bs

/-- Decode hexadecimal text in either case; odd lengths and other characters fail. -/
def hexDecode (s : String) : Option Bytes := hexDecodeChars s.toList

theorem hexValue_hexDigit : ∀ n < 16, hexValue (hexDigit n) = some n := by decide

/-- Decoding undoes encoding. -/
theorem hexDecode_hexEncode (bs : Bytes) : hexDecode (hexEncode bs) = some bs := by
  simp only [hexDecode, hexEncode, String.toList_ofList]
  induction bs with
  | nil => rfl
  | cons b bs ih =>
    have hb : b.toNat < 256 := b.toNat_lt
    have hhi := hexValue_hexDigit (b.toNat / 16) (by omega)
    have hlo := hexValue_hexDigit (b.toNat % 16) (by omega)
    have hbyte : UInt8.ofNat (16 * (b.toNat / 16) + b.toNat % 16) = b := by
      rw [Nat.div_add_mod]
      exact UInt8.ofNat_toNat
    simp only [List.flatMap_cons, List.cons_append, List.nil_append, hexDecodeChars, hhi, hlo, ih,
      Option.bind_eq_bind, Option.bind_some, Option.pure_def, hbyte]

/-- Why hexadecimal text does not decode: its length, or its first bad character. -/
def hexError (s : String) : String :=
  if s.utf8ByteSize % 2 = 1 then "Odd number of digits"
  else
    match s.toList.findIdx? fun c => (hexValue c).isNone with
    | some i => "Invalid character '" ++ String.ofList [s.toList.getD i ' '] ++
        "' at position " ++ toString i
    | none => ""

/-! ## Integers and fields as bytes -/

/-- The `k` low bytes of `n`, least significant first. -/
def leBytes : ℕ → ℕ → Bytes
  | 0, _ => []
  | k + 1, n => UInt8.ofNat (n % 256) :: leBytes k (n / 256)

/-- The `k` low bytes of `n`, most significant first. -/
def beBytes (k n : ℕ) : Bytes := (leBytes k n).reverse

/-- A byte string behind its length as four big-endian bytes. -/
def lengthPrefixed (bs : Bytes) : Bytes := beBytes 4 bs.length ++ bs

/-- The control characters that Rust's `{:?}` writes by their number. -/
def byNumber (c : Char) : Bool :=
  (c.toNat < 0x20 || (0x7f ≤ c.toNat && c.toNat < 0xa0)) && decide (c ∉ ['\n', '\r', '\t', '\x00'])

/-- The characters that stand for one inside quotes. -/
def escaped (c : Char) : List Char :=
  if byNumber c then ['\\', 'u', '\x7b'] ++ (Nat.toDigits 16 c.toNat ++ ['\x7d'])
  else if c = '"' then ['\\', '"']
  else if c = '\\' then ['\\', '\\']
  else if c = '\n' then ['\\', 'n']
  else if c = '\r' then ['\\', 'r']
  else if c = '\t' then ['\\', 't']
  else if c = '\x00' then ['\\', '0']
  else [c]

/-- A string between double quotes, with the quote, the backslash and the control characters
escaped as by Rust's `{:?}`. -/
def quoted (s : String) : String := "\"" ++ String.ofList (s.toList.flatMap escaped) ++ "\""

end SauronID.Text
