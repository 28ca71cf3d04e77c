/-
**Instants: a date and a time of day in UTC.**

An instant is read from the form of RFC 3339 and moved to UTC.  The second of a minute may be 60,
which is kept as a leap second and written as such.  Fractions are kept to nine digits.

Main definitions:

* `Calendar.Instant` — a date, a second of the day, and nanoseconds;
* `Calendar.Instant.read?` — the reader;
* `Calendar.Instant.render` — the writer.
-/

import FilterQuery.Calendar.Date

set_option relaxedAutoImplicit false
set_option autoImplicit false

namespace FilterQuery

namespace Calendar

/-- A point in time in UTC.  In a leap second the nanoseconds exceed one thousand million. -/
structure Instant where
  date : Date
  second : Nat
  nanosecond : Nat
deriving DecidableEq

namespace Instant

/-! ### Reading -/

/-- A field of exactly `width` digits, and the rest. -/
def takeField? (width : Nat) (cs : List Char) : Option (Nat × List Char) :=
  if (cs.take width).length = width then
    (Number.readNat? (cs.take width)).map fun n => (n, cs.drop width)
  else none

/-- The rest after one of the given characters. -/
def dropOneOf? (allowed : List Char) : List Char → Option (List Char)
  | c :: rest => if c ∈ allowed then some rest else none
  | [] => none

/-- A date of four, two and two digits. -/
def takeDate? (cs : List Char) : Option (Date × List Char) := do
  let (year, cs) ← takeField? 4 cs
  let cs ← dropOneOf? ['-'] cs
  let (month, cs) ← takeField? 2 cs
  let cs ← dropOneOf? ['-'] cs
  let (day, cs) ← takeField? 2 cs
  let date ← Date.of? year month day
  return (date, cs)

/-- A time of day of two, two and two digits: the second of the day, and the nanoseconds that a
leap second adds. -/
def takeTime? (cs : List Char) : Option ((Nat × Nat) × List Char) := do
  let (hour, cs) ← takeField? 2 cs
  let cs ← dropOneOf? [':'] cs
  let (minute, cs) ← takeField? 2 cs
  let cs ← dropOneOf? [':'] cs
  let (second, cs) ← takeField? 2 cs
  -- The sixtieth second counts as the fifty-ninth, with a whole second of nanoseconds on top.
  if hour ≤ 23 ∧ minute ≤ 59 ∧ second ≤ 60 then
    return ((hour * 3600 + minute * 60 + min second 59, if second = 60 then 1000000000 else 0), cs)
  else none

/-- The nanoseconds of an optional fraction.  Digits past the ninth are dropped. -/
def takeFraction? : List Char → Option (Nat × List Char)
  | '.' :: cs =>
      let ds := cs.takeWhile Char.isDigit
      let kept := ds.take 9
      (Number.readNat? kept).map fun n => (n * Nat.pow 10 (9 - kept.length), cs.drop ds.length)
  | cs => some (0, cs)

/-- The seconds by which the clock is ahead of UTC. -/
def readOffset? (cs : List Char) : Option Int :=
  let clock (cs : List Char) : Option Int := do
    let (hour, cs) ← takeField? 2 cs
    let cs ← dropOneOf? [':'] cs
    let (minute, cs) ← takeField? 2 cs
    if cs.isEmpty ∧ hour ≤ 23 ∧ minute ≤ 59 then return hour * 3600 + minute * 60 else none
  match cs with
  | ['Z'] => some 0
  | ['z'] => some 0
  | '+' :: cs => clock cs
  | '-' :: cs => (clock cs).map (- ·)
  | '−' :: cs => (clock cs).map (- ·)
  | _ => none

/-- The instant of a local date and second of the day on a clock that is ahead of UTC by
`offset`. -/
def ofLocal? (date : Date) (second : Nat) (nanosecond : Nat) (offset : Int) : Option Instant :=
  let shifted : Int := second - offset
  let atUtc (date : Date) : Instant := ⟨date, (shifted % 86400).toNat, nanosecond⟩
  if shifted < 0 then date.previous?.map atUtc
  else if 86400 ≤ shifted then date.next?.map atUtc
  else some (atUtc date)

/-- The instant that a text gives. -/
def read? (cs : List Char) : Option Instant := do
  let (date, cs) ← takeDate? cs
  let cs ← dropOneOf? ['T', 't', ' '] cs
  let ((second, leap), cs) ← takeTime? cs
  let (fraction, cs) ← takeFraction? cs
  let offset ← readOffset? cs
  ofLocal? date second (leap + fraction) offset

/-! ### Writing -/

/-- The fraction of a second: none if it is zero, else the fewest of 3, 6 and 9 digits that are
exact. -/
def renderFraction (nanosecond : Nat) : List Char :=
  if nanosecond = 0 then []
  else if nanosecond % 1000000 = 0 then '.' :: Number.showPadded 3 (nanosecond / 1000000)
  else if nanosecond % 1000 = 0 then '.' :: Number.showPadded 6 (nanosecond / 1000)
  else '.' :: Number.showPadded 9 nanosecond

/-- The time of day. -/
def renderTime (t : Instant) : List Char :=
  let leap := 1000000000 ≤ t.nanosecond
  Number.showPadded 2 (t.second / 3600) ++ ':' :: Number.showPadded 2 (t.second / 60 % 60) ++
    ':' :: Number.showPadded 2 (t.second % 60 + if leap then 1 else 0) ++
    renderFraction (t.nanosecond % 1000000000)

/-- The text of an instant. -/
def render (t : Instant) : List Char :=
  t.date.render ++ 'T' :: t.renderTime ++ ['Z']

end Instant

end Calendar

end FilterQuery
