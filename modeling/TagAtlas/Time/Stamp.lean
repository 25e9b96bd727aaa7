import TagAtlas.Decimal.View

/-!
# Points in time

A stamp is a date and a time of day in UTC. Its text is that of RFC 3339 with the letter `Z`, and
with three, six or nine decimals of a second when they are needed. A text with another offset is
moved to UTC when it is read.
-/

namespace TagAtlas

structure Stamp where
  year : Nat
  month : Nat
  day : Nat
  hour : Nat
  minute : Nat
  second : Nat
  nanosecond : Nat
  deriving DecidableEq, Repr

namespace Stamp

def isLeapYear (year : Nat) : Bool := year % 4 = 0 && (year % 100 ≠ 0 || year % 400 = 0)

def daysIn (year month : Nat) : Nat :=
  if month = 2 then if isLeapYear year then 29 else 28
  else if month = 4 || month = 6 || month = 9 || month = 11 then 30
  else 31

/-- Whether the fields name a day of the calendar and a time of day, in a year of four digits. -/
def isValid (s : Stamp) : Bool :=
  s.year ≤ 9999 && 1 ≤ s.month && s.month ≤ 12 && 1 ≤ s.day && s.day ≤ daysIn s.year s.month &&
    s.hour < 24 && s.minute < 60 && s.second ≤ 60 && s.nanosecond < 1000000000

def padded (width n : Nat) : List Char :=
  let ds := Decimal.digits n
  List.replicate (width - ds.length) '0' ++ ds

/-- The decimals of a second, as many groups of three as are needed. -/
def fraction (nanosecond : Nat) : List Char :=
  if nanosecond = 0 then []
  else if nanosecond % 1000000 = 0 then '.' :: padded 3 (nanosecond / 1000000)
  else if nanosecond % 1000 = 0 then '.' :: padded 6 (nanosecond / 1000)
  else '.' :: padded 9 nanosecond

def text (s : Stamp) : String :=
  String.ofList <| padded 4 s.year ++ ['-'] ++ padded 2 s.month ++ ['-'] ++ padded 2 s.day ++ ['T'] ++
    padded 2 s.hour ++ [':'] ++ padded 2 s.minute ++ [':'] ++ padded 2 s.second ++
    fraction s.nanosecond ++ ['Z']

def dayBefore (s : Stamp) : Stamp :=
  if 1 < s.day then { s with day := s.day - 1 }
  else if 1 < s.month then { s with month := s.month - 1, day := daysIn s.year (s.month - 1) }
  else { s with year := s.year - 1, month := 12, day := 31 }

def dayAfter (s : Stamp) : Stamp :=
  if s.day < daysIn s.year s.month then { s with day := s.day + 1 }
  else if s.month < 12 then { s with month := s.month + 1, day := 1 }
  else { s with year := s.year + 1, month := 1, day := 1 }

/-- The stamp so many minutes earlier, less than a day. -/
def back (s : Stamp) (minutes : Nat) : Stamp :=
  let now := s.hour * 60 + s.minute
  if minutes ≤ now then { s with hour := (now - minutes) / 60, minute := (now - minutes) % 60 }
  else
    let then' := now + 1440 - minutes
    { s.dayBefore with hour := then' / 60, minute := then' % 60 }

/-- The stamp so many minutes later, less than a day. -/
def forth (s : Stamp) (minutes : Nat) : Stamp :=
  let then' := s.hour * 60 + s.minute + minutes
  if then' < 1440 then { s with hour := then' / 60, minute := then' % 60 }
  else { s.dayAfter with hour := (then' - 1440) / 60, minute := (then' - 1440) % 60 }

def number? (width : Nat) (s : List Char) : Option (Nat × List Char) :=
  let ds := s.take width
  if ds.length = width && ds.all Char.isDigit then some (Decimal.ofDigits ds, s.drop width) else none

def mark? (marks : List Char) : List Char → Option (List Char)
  | c :: s => if marks.contains c then some s else none
  | [] => none

/-- Reads the decimals of a second; those beyond nine are dropped. -/
def fraction? : List Char → Option (Nat × List Char)
  | '.' :: s =>
    let ds := s.takeWhile Char.isDigit
    if ds.isEmpty then none
    else some (Decimal.ofDigits ((ds ++ List.replicate 9 '0').take 9), s.dropWhile Char.isDigit)
  | s => some (0, s)

/-- Reads an offset from UTC to the end of the text and moves the stamp by it. -/
def offset? (stamp : Stamp) : List Char → Option Stamp
  | ['Z'] | ['z'] => some stamp
  | sign :: s => do
    let (hours, s) ← number? 2 s
    let s ← mark? [':'] s
    let (minutes, s) ← number? 2 s
    if s = [] && hours < 24 && minutes < 60 then
      if sign = '+' then some (stamp.back (hours * 60 + minutes))
      else if sign = '-' then some (stamp.forth (hours * 60 + minutes))
      else none
    else none
  | [] => none

def ofText? (text : String) : Option Stamp := do
  let (year, s) ← number? 4 text.toList
  let s ← mark? ['-'] s
  let (month, s) ← number? 2 s
  let s ← mark? ['-'] s
  let (day, s) ← number? 2 s
  let s ← mark? ['T', 't', ' '] s
  let (hour, s) ← number? 2 s
  let s ← mark? [':'] s
  let (minute, s) ← number? 2 s
  let s ← mark? [':'] s
  let (second, s) ← number? 2 s
  let (nanosecond, s) ← fraction? s
  let stamp : Stamp := ⟨year, month, day, hour, minute, second, nanosecond⟩
  if stamp.isValid then offset? stamp s else none

/-- The stamp so many days after the first of January 1970. -/
def ofDays (days : Nat) : Stamp :=
  let z := days + 719468
  let era := z / 146097
  let dayOfEra := z % 146097
  let yearOfEra := (dayOfEra - dayOfEra / 1460 + dayOfEra / 36524 - dayOfEra / 146096) / 365
  let dayOfYear := dayOfEra - (365 * yearOfEra + yearOfEra / 4 - yearOfEra / 100)
  let shifted := (5 * dayOfYear + 2) / 153
  let day := dayOfYear - (153 * shifted + 2) / 5 + 1
  let month := if shifted < 10 then shifted + 3 else shifted - 9
  let year := yearOfEra + era * 400 + (if month ≤ 2 then 1 else 0)
  ⟨year, month, day, 0, 0, 0, 0⟩

/-- The stamp so many nanoseconds after the first of January 1970. -/
def ofNanoseconds (n : Nat) : Stamp :=
  let seconds := n / 1000000000
  { ofDays (seconds / 86400) with
    hour := seconds / 3600 % 24
    minute := seconds / 60 % 60
    second := seconds % 60
    nanosecond := n % 1000000000 }

end Stamp

end TagAtlas
