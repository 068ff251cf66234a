/-
  `uuid.UUID`: the UUID reader of Python's standard library.

  The reader is lenient.  It drops `urn:` and `uuid:` anywhere, braces at both ends and every hyphen,
  and hands the 32 characters that are left to `int(hex, 16)`, which in turn accepts surrounding
  blanks, a sign, the prefix `0x`, single underscores between digits, and the decimal digits of every
  script.  So a UUID has many spellings, and two strings denote one UUID when they are read to one
  number.

  The reader is written out in the order of the library's: what it drops, the count of the
  characters left, the conversion to a number.  The library's last check, that the number fits 128
  bits, never fails here and is left out: the hyphens are gone, so no number is negative, and 32
  digits are no more than 128 bits.  `parse` returns the number and not the text, since equal
  numbers are equal UUIDs.
-/
import Mathlib.Data.List.Basic

namespace Uuid

/-! ## `int(text, 16)` -/

/-- A blank: ASCII white space, or a space of another script. -/
def isBlank (c : Char) : Bool :=
  let n := c.toNat
  (9 ≤ n && n ≤ 13) || n == 32 || n == 0x85 || n == 0xa0 || n == 0x1680 ||
    (0x2000 ≤ n && n ≤ 0x200a) || n == 0x2028 || n == 0x2029 || n == 0x202f || n == 0x205f ||
    n == 0x3000

/-- The zeros of the scripts that have decimal digits; nine more digits follow each. -/
def decimalZeros : List Nat :=
  [0x660, 0x6f0, 0x7c0, 0x966, 0x9e6, 0xa66, 0xae6, 0xb66, 0xbe6, 0xc66, 0xce6, 0xd66, 0xde6, 0xe50,
    0xed0, 0xf20, 0x1040, 0x1090, 0x17e0, 0x1810, 0x1946, 0x19d0, 0x1a80, 0x1a90, 0x1b50, 0x1bb0,
    0x1c40, 0x1c50, 0xa620, 0xa8d0, 0xa900, 0xa9d0, 0xa9f0, 0xaa50, 0xabf0, 0xff10, 0x104a0, 0x10d30,
    0x10d40, 0x11066, 0x110f0, 0x11136, 0x111d0, 0x112f0, 0x11450, 0x114d0, 0x11650, 0x116c0, 0x116d0,
    0x116da, 0x11730, 0x118e0, 0x11950, 0x11bf0, 0x11c50, 0x11d50, 0x11da0, 0x11f50, 0x16130, 0x16a60,
    0x16ac0, 0x16b50, 0x16d70, 0x1ccf0, 0x1d7ce, 0x1d7d8, 0x1d7e2, 0x1d7ec, 0x1d7f6, 0x1e140, 0x1e2f0,
    0x1e4f0, 0x1e5f1, 0x1e950, 0x1fbf0]

/-- The value of a hexadecimal digit. -/
def hexDigit? (c : Char) : Option Nat :=
  let n := c.toNat
  if '0' ≤ c ∧ c ≤ '9' then some (n - '0'.toNat)
  else if 'a' ≤ c ∧ c ≤ 'f' then some (n - 'a'.toNat + 10)
  else if 'A' ≤ c ∧ c ≤ 'F' then some (n - 'A'.toNat + 10)
  else (decimalZeros.find? fun first => first ≤ n ∧ n ≤ first + 9).map (n - ·)

/-- Digits to the end, with single underscores between them; `between` after a digit. -/
def hexDigits (between : Bool) (value : Nat) : List Char → Option Nat
  | [] => if between then some value else none
  | c :: cs =>
    if c = '_' then
      if between then hexDigits false value cs else none
    else (hexDigit? c).bind fun digit => hexDigits true (16 * value + digit) cs

/-- Digits behind the prefix `0x`, which one underscore may follow, or without it. -/
def prefixedDigits : List Char → Option Nat
  | '0' :: 'x' :: '_' :: cs | '0' :: 'X' :: '_' :: cs => hexDigits false 0 cs
  | '0' :: 'x' :: cs | '0' :: 'X' :: cs => hexDigits false 0 cs
  | cs => hexDigits false 0 cs

/-- The text without what holds of its first and its last characters. -/
def stripped (drop : Char → Bool) (cs : List Char) : List Char :=
  ((cs.dropWhile drop).reverse.dropWhile drop).reverse

/-- `int(text, 16)`; `none` is the `ValueError`. -/
def int16 (cs : List Char) : Option Int :=
  match stripped isBlank cs with
  | '+' :: cs => (prefixedDigits cs).map Int.ofNat
  | '-' :: cs => (prefixedDigits cs).map fun value => -(value : Int)
  | cs => (prefixedDigits cs).map Int.ofNat

/-! ## The reader -/

/-- `text.replace(pattern, "")`: occurrences from the left, `skip` characters into one. -/
def removeFrom (pattern : List Char) (skip : Nat) : List Char → List Char
  | [] => []
  | c :: cs =>
    match skip with
    | skip + 1 => removeFrom pattern skip cs
    | 0 =>
      if pattern.isPrefixOf (c :: cs) then removeFrom pattern (pattern.length - 1) cs
      else c :: removeFrom pattern 0 cs

/-- What is left for the digits. -/
def hexText (s : String) : List Char :=
  let cs := removeFrom "uuid:".toList 0 (removeFrom "urn:".toList 0 s.toList)
  (stripped (fun c => c == '\x7b' || c == '\x7d') cs).filter (· ≠ '-')

/-- `uuid.UUID(s).int`; `none` is the `ValueError`. -/
def parse (s : String) : Option Int :=
  if (hexText s).length = 32 then int16 (hexText s) else none

-- Spellings of one UUID, and what is none.
example : parse "\x7b00000000-0000-0000-0000-0000000000ff\x7d" = some 255 := by decide
example : parse "urn:uuid:0x0000_0000_0000_0000_0000_00_ff" = some 255 := by decide
example : parse "00000000-0000-0000-0000-00000000000g" = none := by decide

end Uuid
