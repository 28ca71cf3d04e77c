/-
**The shortest decimal that reads back.**

Among all decimals that round to a given binary number the ones with the fewest digits are taken,
and of those the nearest to the number.  The search runs over the decimal grids of one, two, three
and more digits: if a grid has a point that rounds to the number, then one of the number's two
neighbours on that grid is such a point.

Main definitions:

* `Number.Interval` — the ratios that round to a number;
* `Number.shortestDigits` — the digits and the power of ten of the shortest decimal;
* `Number.Layout`, `Number.showBinary64` — how digits are laid out as text.
-/

import FilterQuery.Number.Binary64

set_option relaxedAutoImplicit false
set_option autoImplicit false

namespace FilterQuery

namespace Number

/-- The ratios that round to a number, over one denominator.  The ends belong to the interval
exactly if `closed`. -/
structure Interval where
  low : Nat
  value : Nat
  high : Nat
  den : Nat
  closed : Bool

/-- The ratios that round to the positive number `m · 2 ^ q`.  The gap below a power of two is
half the gap above it. -/
def Interval.ofBinary (m : Nat) (q : Int) : Interval :=
  -- In quarters of the last place the ends are two away, and one where the gap is halved.
  let below := if m = Binary64.fractionSize ∧ -1074 < q then 1 else 2
  let up := if 2 ≤ q then Nat.pow 2 (q - 2).toNat else 1
  let den := if 2 ≤ q then 1 else Nat.pow 2 (2 - q).toNat
  ⟨(4 * m - below) * up, 4 * m * up, (4 * m + 2) * up, den, m % 2 = 0⟩

/-- Whether `n / den` rounds to the number. -/
def Interval.holds (i : Interval) (n : Nat) : Bool :=
  if i.closed then i.low ≤ n && n ≤ i.high else i.low < n && n < i.high

/-- The interval divided by a power of ten, brought to natural numbers again. -/
def Interval.scale (i : Interval) (power : Int) : Interval :=
  if 0 ≤ power then { i with den := i.den * Nat.pow 10 power.toNat }
  else
    let up := Nat.pow 10 (-power).toNat
    { i with low := i.low * up, value := i.value * up, high := i.high * up }

/-- The power of ten below a positive ratio, found from an estimate that is at most one off. -/
def Interval.leadingPower (i : Interval) : Int :=
  let estimate : Int := (Nat.toDigits 10 i.value).length - (Nat.toDigits 10 i.den).length
  let s := i.scale estimate
  if s.den ≤ s.value then estimate else estimate - 1

/-- The point of the grid of multiples of `10 ^ power` that rounds to the number and is nearest to
it, if there is one.  Of two equally near points it is the larger. -/
def Interval.gridPoint? (i : Interval) (power : Int) : Option Nat :=
  let s := i.scale power
  let down := s.value / s.den
  let rest := s.value % s.den
  let downHits := s.holds (down * s.den)
  let upHits := s.holds ((down + 1) * s.den)
  if downHits && (!upHits || 2 * rest < s.den) then some down
  else if upHits then some (down + 1)
  else none

/-- The first grid with a point, from the grid of one digit on. -/
def Interval.firstPoint (i : Interval) (leading : Int) : Nat → Nat → Nat × Int
  | _, 0 => (0, 0)
  | digits, tries + 1 =>
      let power := leading - digits
      match i.gridPoint? power with
      | some d => (d, power)
      | none => i.firstPoint leading (digits + 1) tries

/-- The shortest decimal `d · 10 ^ k` that rounds to the positive number `m · 2 ^ q`.  Seventeen
digits always suffice. -/
def shortestDigits (m : Nat) (q : Int) : Nat × Int :=
  let i := Interval.ofBinary m q
  i.firstPoint i.leadingPower 0 18

/-! ### Text -/

/-- Where a text changes from positional to exponential notation: the powers of ten of the first
digit from `least` up to but not including `most` are written positionally. -/
structure Layout where
  least : Int
  most : Int

/-- Diagnostics write the magnitudes from one ten-thousandth up to `10 ^ 16` positionally. -/
def Layout.diagnostic : Layout := ⟨-4, 16⟩

/-- The digits `ds` with the point after the digit of `10 ^ 0`, where the first digit has the power
of ten `leading`.  A point always has a digit on both sides. -/
def positional (ds : List Char) (leading : Int) : List Char :=
  if leading < 0 then "0.".toList ++ List.replicate (-leading - 1).toNat '0' ++ ds
  else
    let whole := (leading + 1).toNat
    if ds.length ≤ whole then ds ++ List.replicate (whole - ds.length) '0' ++ ".0".toList
    else ds.take whole ++ '.' :: ds.drop whole

/-- The digits `ds` with the point after the first one and the power of ten behind a mark. -/
def exponential (ds : List Char) (leading : Int) : List Char :=
  let mantissa := if ds.length ≤ 1 then ds else ds.take 1 ++ '.' :: ds.drop 1
  mantissa ++ 'e' :: (toString leading).toList

/-- The digits of a number without its trailing zeros. -/
def significant (n : Nat) : List Char :=
  ((Nat.toDigits 10 n).reverse.dropWhile (· == '0')).reverse

/-- The text of a finite positive magnitude. -/
def Layout.render (layout : Layout) (x : Binary64) : List Char :=
  let d := shortestDigits x.decode.1 x.decode.2
  let leading : Int := (Nat.toDigits 10 d.1).length - 1 + d.2
  let ds := significant d.1
  if layout.least ≤ leading ∧ leading < layout.most then positional ds leading
  else exponential ds leading

/-- The text of a number.  Zero keeps its sign, and what is no number has none. -/
def showBinary64 (layout : Layout) (x : Binary64) : String :=
  if x.isNaN then "NaN"
  else
    let body :=
      if x.isInfinite then "inf".toList
      else if x.magnitude = 0 then "0.0".toList
      else layout.render x
    String.ofList (if x.isNegative then '-' :: body else body)

end Number

end FilterQuery
