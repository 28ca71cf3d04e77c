/-
**Calendar dates of the proleptic Gregorian calendar.**

A date has a year, a month and a day, and every date that can be built is a real one.  Years run
from -262143 to 262142.  Dates are read and written in the form year-month-day.

Main definitions:

* `Calendar.Date`, `Calendar.Date.of?` — dates, and the check that a triple is one;
* `Calendar.Date.read?` — the reader;
* `Calendar.Date.render` — the writer;
* `Calendar.Date.next?`, `Calendar.Date.previous?` — the neighbouring days.
-/

import FilterQuery.Number.Integer
import FilterQuery.Text.Blank

set_option relaxedAutoImplicit false
set_option autoImplicit false

namespace FilterQuery

namespace Calendar

/-- Whether a year has a twenty-ninth of February. -/
def isLeapYear (year : Int) : Bool :=
  year % 4 = 0 && (year % 100 ≠ 0 || year % 400 = 0)

/-- The number of days of a month, and zero for a number that is no month. -/
def daysInMonth (year : Int) (month : Nat) : Nat :=
  match month with
  | 2 => if isLeapYear year then 29 else 28
  | 4 | 6 | 9 | 11 => 30
  | 1 | 3 | 5 | 7 | 8 | 10 | 12 => 31
  | _ => 0

/-- The first and the last year of the calendar. -/
def yearRange : Int × Int := (-262143, 262142)

/-- Whether year, month and day name a day of the calendar. -/
def IsDay (year : Int) (month day : Nat) : Prop :=
  yearRange.1 ≤ year ∧ year ≤ yearRange.2 ∧ 1 ≤ day ∧ day ≤ daysInMonth year month

instance (year : Int) (month day : Nat) : Decidable (IsDay year month day) :=
  inferInstanceAs (Decidable (_ ∧ _ ∧ _ ∧ _))

/-- A day of the calendar. -/
structure Date where
  year : Int
  month : Nat
  day : Nat
  isDay : IsDay year month day
deriving DecidableEq

namespace Date

/-- The date of a year, a month and a day, if it exists. -/
def of? (year : Int) (month day : Nat) : Option Date :=
  if h : IsDay year month day then some ⟨year, month, day, h⟩ else none

/-! ### Reading -/

/-- At most `width` leading digits, and the rest.  There must be at least one digit. -/
def takeDigits? (width : Nat) (cs : List Char) : Option (Nat × List Char) :=
  let ds := (cs.take width).takeWhile Char.isDigit
  (Number.readNat? ds).map fun n => (n, cs.drop ds.length)

/-- A year behind optional blanks: a sign and any number of digits, or up to four digits. -/
def takeYear? (cs : List Char) : Option (Int × List Char) :=
  match Text.skipBlanks cs with
  | '-' :: ds => (takeDigits? ds.length ds).map fun r => (-Int.ofNat r.1, r.2)
  | '+' :: ds => (takeDigits? ds.length ds).map fun r => (Int.ofNat r.1, r.2)
  | ds => (takeDigits? 4 ds).map fun r => (Int.ofNat r.1, r.2)

/-- A hyphen and, behind optional blanks, a month or day of up to two digits. -/
def takePart? : List Char → Option (Nat × List Char)
  | '-' :: cs => takeDigits? 2 (Text.skipBlanks cs)
  | _ => none

/-- The date that a text gives as year, month and day. -/
def read? (cs : List Char) : Option Date :=
  (takeYear? cs).bind fun y =>
    (takePart? y.2).bind fun m =>
      (takePart? m.2).bind fun d =>
        if d.2.isEmpty then of? y.1 m.1 d.1 else none

/-! ### Writing -/

/-- A year of at least four digits, signed if it is not one of 0 to 9999. -/
def renderYear (year : Int) : List Char :=
  let digits := Number.showPadded 4 year.natAbs
  if year < 0 then '-' :: digits
  else if 9999 < year then '+' :: digits
  else digits

/-- The text of a date. -/
def render (d : Date) : List Char :=
  renderYear d.year ++ '-' :: Number.showPadded 2 d.month ++ '-' :: Number.showPadded 2 d.day

/-! ### Neighbours -/

/-- The following day. -/
def next? (d : Date) : Option Date :=
  if d.day < daysInMonth d.year d.month then of? d.year d.month (d.day + 1)
  else if d.month < 12 then of? d.year (d.month + 1) 1
  else of? (d.year + 1) 1 1

/-- The preceding day. -/
def previous? (d : Date) : Option Date :=
  if 1 < d.day then of? d.year d.month (d.day - 1)
  else if 1 < d.month then of? d.year (d.month - 1) (daysInMonth d.year (d.month - 1))
  else of? (d.year - 1) 12 31

end Date

end Calendar

end FilterQuery
