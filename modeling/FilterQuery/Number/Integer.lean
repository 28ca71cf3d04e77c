/-
**Decimal integers of a fixed width.**

An integer is written as an optional sign and at least one ASCII digit.  Leading zeros are
allowed, blanks and digit separators are not.  A reader of a fixed width refuses what lies outside
its range.

Main definitions:

* `Number.readNat?`, `Number.readInteger?` — the value of an unsigned and of a signed numeral;
* `Number.readInt32?`, `Number.readInt64?` — the value in the range of the width;
* `Number.showInteger` — the numeral without a plus sign and without leading zeros.
-/

set_option relaxedAutoImplicit false
set_option autoImplicit false

namespace FilterQuery

namespace Number

/-- The value of a non-empty run of ASCII digits. -/
def readNat? (cs : List Char) : Option Nat :=
  if cs ≠ [] ∧ cs.all Char.isDigit then some (Nat.ofDigitChars 10 cs 0) else none

/-- The value of an optional sign and a run of ASCII digits. -/
def readInteger? : List Char → Option Int
  | '+' :: ds => (readNat? ds).map Int.ofNat
  | '-' :: ds => (readNat? ds).map fun n => -Int.ofNat n
  | ds => (readNat? ds).map Int.ofNat

/-- A signed 32-bit integer, if the numeral is in its range. -/
def readInt32? (cs : List Char) : Option Int32 :=
  (readInteger? cs).bind fun n =>
    if -0x80000000 ≤ n ∧ n < 0x80000000 then some (Int32.ofInt n) else none

/-- A signed 64-bit integer, if the numeral is in its range. -/
def readInt64? (cs : List Char) : Option Int64 :=
  (readInteger? cs).bind fun n =>
    if -0x8000000000000000 ≤ n ∧ n < 0x8000000000000000 then some (Int64.ofInt n) else none

/-- The numeral of a natural number. -/
def showNat (n : Nat) : List Char :=
  Nat.toDigits 10 n

/-- The numeral of an integer. -/
def showInteger : Int → List Char
  | .ofNat n => showNat n
  | .negSucc n => '-' :: showNat (n + 1)

/-- The numeral filled up with zeros on the left to at least `width` digits. -/
def showPadded (width n : Nat) : List Char :=
  List.replicate (width - (showNat n).length) '0' ++ showNat n

end Number

end FilterQuery
