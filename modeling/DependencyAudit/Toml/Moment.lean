/-!
The dates and times of TOML 1.0. They are only delimited, but a date has to be one of the
calendar.
-/

namespace DependencyAudit.Toml

/-- The number that two digits write, if it is at most `high`, and what stands behind. -/
def twoDigits? (low high : Nat) : List Char → Option (Nat × List Char)
  | a :: b :: rest =>
    let n := (a.toNat - 48) * 10 + (b.toNat - 48)
    if a.isDigit && b.isDigit && low ≤ n && n ≤ high then some (n, rest) else none
  | _ => none

def behind? (mark : Char) : List Char → Option (List Char)
  | [] => none
  | c :: rest => if c = mark then some rest else none

/-- What stands behind a fraction of a second, if there is one. -/
def behindSecondFraction : List Char → List Char
  | '.' :: c :: rest => if c.isDigit then rest.dropWhile Char.isDigit else '.' :: c :: rest
  | s => s

def behindTime? (s : List Char) : Option (List Char) := do
  let (_, s) ← twoDigits? 0 23 s
  let s ← behind? ':' s
  let (_, s) ← twoDigits? 0 59 s
  let s ← behind? ':' s
  let (_, s) ← twoDigits? 0 59 s
  return behindSecondFraction s

def behindHoursMinutes? (s : List Char) : Option (List Char) := do
  let (_, s) ← twoDigits? 0 23 s
  let s ← behind? ':' s
  let (_, s) ← twoDigits? 0 59 s
  return s

/-- What stands behind the offset of a time zone, if there is one. -/
def behindOffset : List Char → List Char
  | 'Z' :: rest => rest
  | 'z' :: rest => rest
  | '+' :: rest => (behindHoursMinutes? rest).getD ('+' :: rest)
  | '-' :: rest => (behindHoursMinutes? rest).getD ('-' :: rest)
  | s => s

/-- What stands behind the time of day that may follow a date, if it does. -/
def behindDateTime : List Char → List Char
  | [] => []
  | c :: rest =>
    if c = 'T' ∨ c = 't' ∨ c = ' ' then
      match behindTime? rest with
      | some s => behindOffset s
      | none => c :: rest
    else c :: rest

def isLeapYear (year : Nat) : Bool := year % 4 == 0 && (year % 100 != 0 || year % 400 == 0)

def daysIn (year month : Nat) : Nat :=
  if month = 2 then (if isLeapYear year then 29 else 28)
  else if month = 4 ∨ month = 6 ∨ month = 9 ∨ month = 11 then 30
  else 31

/-- The year, month and day of a date, and what stands behind it. -/
def date? (s : List Char) : Option ((Nat × Nat × Nat) × List Char) := do
  let (century, s) ← twoDigits? 0 99 s
  let (year, s) ← twoDigits? 0 99 s
  let s ← behind? '-' s
  let (month, s) ← twoDigits? 1 12 s
  let s ← behind? '-' s
  let (day, s) ← twoDigits? 1 31 s
  return ((century * 100 + year, month, day), s)

/-- What stands behind a date, with or without a time, or behind a time. The outer `none` says
that no such form begins; the inner one, that the date is none of the calendar. -/
def behindMoment? (s : List Char) : Option (Option (List Char)) :=
  match date? s with
  | some ((year, month, day), rest) =>
    some (if 1 ≤ year ∧ day ≤ daysIn year month then some (behindDateTime rest) else none)
  | none => (behindTime? s).map some

end DependencyAudit.Toml
