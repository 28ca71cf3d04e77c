/-
**Binary floating point of 64 bits, read from decimal text.**

A number is kept as its 64-bit pattern.  Reading rounds the exact decimal value to the nearest
pattern, a half going to the even neighbour; what is too large becomes infinite and what is too
small becomes zero.  All arithmetic is done on natural numbers.

Main definitions:

* `Number.Binary64` — a bit pattern;
* `Number.roundRatio` — the pattern nearest to a positive ratio;
* `Number.Decimal` — an exact decimal value, and `Number.Decimal.toBinary64`, its rounding;
* `Number.readBinary64?` — the reader of the whole grammar.
-/

import FilterQuery.Number.Integer

set_option relaxedAutoImplicit false
set_option autoImplicit false

namespace FilterQuery

namespace Number

/-- A binary floating-point number, given by its sign bit, eleven exponent bits and fifty-two
fraction bits. -/
structure Binary64 where
  bits : UInt64
deriving DecidableEq

namespace Binary64

/-- The bits of positive infinity, without the sign. -/
def infinityBits : Nat := 0x7ff0000000000000

/-- The value of the sign bit. -/
def signBit : Nat := 0x8000000000000000

/-- The number of fractions, which is the value of the lowest exponent bit. -/
def fractionSize : Nat := 0x10000000000000

/-- The bits of the magnitude, without the sign. -/
def magnitude (x : Binary64) : Nat := x.bits.toNat % signBit

/-- Whether the sign bit is set. -/
def isNegative (x : Binary64) : Bool := decide (signBit ≤ x.bits.toNat)

/-- Whether the pattern stands for no number at all. -/
def isNaN (x : Binary64) : Bool := decide (infinityBits < x.magnitude)

/-- Whether the pattern stands for an infinity. -/
def isInfinite (x : Binary64) : Bool := x.magnitude == infinityBits

/-- A pattern from its sign and the bits of its magnitude. -/
def ofMagnitude (negative : Bool) (bits : Nat) : Binary64 :=
  ⟨UInt64.ofNat (if negative then bits + signBit else bits)⟩

/-- The mantissa `m` and exponent `q` of a finite magnitude, whose value is `m · 2 ^ q`. -/
def decode (x : Binary64) : Nat × Int :=
  let fraction := x.magnitude % fractionSize
  let exponent := x.magnitude / fractionSize
  if exponent = 0 then (fraction, -1074) else (fraction + fractionSize, Int.ofNat exponent - 1075)

end Binary64

/-! ### Rounding -/

/-- The quotient rounded to the nearest natural number, a half going to the even neighbour. -/
def roundDiv (num den : Nat) : Nat :=
  let q := num / den
  let r := num % den
  if 2 * r < den ∨ (2 * r = den ∧ q % 2 = 0) then q else q + 1

/-- The numerator and denominator of `num / den` divided by `2 ^ e`. -/
def scaleRatio (num den : Nat) (e : Int) : Nat × Nat :=
  if e < 0 then (num * Nat.pow 2 (-e).toNat, den) else (num, den * Nat.pow 2 e.toNat)

/-- The magnitude bits nearest to the positive ratio `num / den`.  The exponent is chosen so that
the mantissa has fifty-three bits, as far as the least exponent allows; a mantissa that rounds up
to the next power of two carries into the exponent bits by itself. -/
def roundRatio (num den : Nat) : Nat :=
  -- At this exponent the quotient has fifty-three or fifty-four bits.
  let low : Int := (Nat.log2 num : Int) - Nat.log2 den - 53
  let whole := scaleRatio num den low
  let fitted := if 2 * Binary64.fractionSize ≤ whole.1 / whole.2 then low + 1 else low
  let exponent := max fitted (-1074)
  let scaled := scaleRatio num den exponent
  min (roundDiv scaled.1 scaled.2 + (exponent + 1074).toNat * Binary64.fractionSize)
    Binary64.infinityBits

/-! ### Decimal values -/

/-- The value `digits · 10 ^ exponent` with a sign. -/
structure Decimal where
  negative : Bool
  digits : Nat
  exponent : Int

/-- The magnitude bits nearest to a decimal value.  A value of `10 ^ 310` or more is infinite and
one below `10 ^ -330` is zero, whatever its digits, so that no large power is ever formed. -/
def Decimal.magnitude (d : Decimal) : Nat :=
  let size : Int := (Nat.toDigits 10 d.digits).length + d.exponent
  if d.digits = 0 then 0
  else if 310 < size then Binary64.infinityBits
  else if size < -330 then 0
  else if d.exponent < 0 then roundRatio d.digits (Nat.pow 10 (-d.exponent).toNat)
  else roundRatio (d.digits * Nat.pow 10 d.exponent.toNat) 1

/-- The pattern nearest to a decimal value. -/
def Decimal.toBinary64 (d : Decimal) : Binary64 :=
  Binary64.ofMagnitude d.negative d.magnitude

/-! ### Reading -/

/-- What follows the digits of a decimal: nothing, or a mark and the power of ten as an integer
with an optional sign. -/
def readScale? : List Char → Option Int
  | [] => some 0
  | 'e' :: ds => readInteger? ds
  | 'E' :: ds => readInteger? ds
  | _ => none

/-- An unsigned decimal: digits with an optional point, at least one digit on either side of it,
and an optional power of ten. -/
def readDecimal? (negative : Bool) (cs : List Char) : Option Decimal :=
  let whole := cs.takeWhile Char.isDigit
  let tail := cs.dropWhile Char.isDigit
  let pointed := tail.head? = some '.'
  let fraction := if pointed then tail.tail.takeWhile Char.isDigit else []
  let scale := if pointed then tail.tail.dropWhile Char.isDigit else tail
  if whole = [] ∧ fraction = [] then none
  else
    (readScale? scale).map fun e =>
      ⟨negative, Nat.ofDigitChars 10 (whole ++ fraction) 0, e - fraction.length⟩

/-- A number without its sign: a word for infinity or for no number, in any case, or a decimal. -/
def readMagnitude? (negative : Bool) (cs : List Char) : Option Binary64 :=
  let word := cs.map Char.toLower
  if word = "inf".toList ∨ word = "infinity".toList then
    some (.ofMagnitude negative Binary64.infinityBits)
  else if word = "nan".toList then some (.ofMagnitude negative 0x7ff8000000000000)
  else (readDecimal? negative cs).map Decimal.toBinary64

/-- The number that a text stands for. -/
def readBinary64? : List Char → Option Binary64
  | '+' :: cs => readMagnitude? false cs
  | '-' :: cs => readMagnitude? true cs
  | cs => readMagnitude? false cs

end Number

end FilterQuery
