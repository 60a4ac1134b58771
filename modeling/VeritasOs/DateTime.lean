import VeritasOs.Value

namespace VeritasOs.DateTime

-- The proleptic Gregorian calendar of Python's datetime. Ordinal 1 is 0001-01-01.
def isLeap (year : Nat) : Bool := year % 4 == 0 && (year % 100 != 0 || year % 400 == 0)

def daysBeforeYear (year : Nat) : Nat := (year - 1) * 365 + (year - 1) / 4 - (year - 1) / 100 + (year - 1) / 400

def daysInMonth (year month : Nat) : Nat :=
  if month == 2 then (if isLeap year then 29 else 28)
  else if [4,6,9,11].contains month then 30 else 31

def daysBeforeMonth (year month : Nat) : Nat :=
  ((List.range (month - 1)).map fun k => daysInMonth year (k + 1)).sum

def ymd2ord (year month day : Nat) : Nat := daysBeforeYear year + daysBeforeMonth year month + day

def monthOf (year : Nat) : Nat → Nat → Nat → Nat × Nat
  | 0,month,rest => (month,rest + 1)
  | fuel+1,month,rest =>
    if rest < daysInMonth year month then (month,rest + 1) else monthOf year fuel (month + 1) (rest - daysInMonth year month)

def ord2ymd (ordinal : Nat) : Nat × Nat × Nat :=
  let n := ordinal - 1
  let n400 := n / 146097
  let n100 := (n % 146097) / 36524
  let n4 := (n % 146097 % 36524) / 1461
  let n1 := (n % 146097 % 36524 % 1461) / 365
  let year := n400 * 400 + n100 * 100 + n4 * 4 + n1 + 1
  if n1 == 4 || n100 == 4 then (year - 1,12,31)
  else (year,monthOf year 12 1 (n - daysBeforeYear year))

def isoweek1monday (year : Nat) : Nat :=
  let firstday := ymd2ord year 1 1
  let firstweekday := (firstday + 6) % 7
  if firstweekday > 3 then firstday - firstweekday + 7 else firstday - firstweekday

def isoweekToGregorian (year week day : Nat) : Option (Nat × Nat × Nat) :=
  let firstweekday := ymd2ord year 1 1 % 7
  let long := week == 53 && (firstweekday == 4 || (firstweekday == 3 && isLeap year))
  if 1 ≤ year ∧ year ≤ 9999 ∧ ((0 < week ∧ week < 53) ∨ long = true) ∧ 0 < day ∧ day < 8 then
    some (ord2ymd (isoweek1monday year + (week - 1) * 7 + (day - 1)))
  else none

def number (chars : List Char) : Option Nat :=
  if chars ≠ [] ∧ chars.all Char.isDigit then
    some (chars.foldl (fun n c => 10 * n + (c.toNat - '0'.toNat)) 0)
  else none

def slice (start stop : Nat) (chars : List Char) : List Char := (chars.take stop).drop start

def charAt (i : Nat) (chars : List Char) : Option Char := chars[i]?

-- Where the date ends: between YYYYWww and YYYY-MM-DD the length alone does not say.
def findSeparator (chars : List Char) : Option Nat :=
  if chars.length == 7 then some 7
  else if charAt 4 chars == some '-' then
    if charAt 5 chars == some 'W' then
      if chars.length > 8 && charAt 8 chars == some '-' then
        if chars.length == 9 then none
        else if chars.length > 10 && ((charAt 10 chars).map Char.isDigit).getD false then some 8
        else some 10
      else some 8
    else some 10
  else if charAt 4 chars == some 'W' then
    let index := 7 + ((chars.drop 7).takeWhile Char.isDigit).length
    if index < 9 then some index
    else if index % 2 == 0 then some 7 else some 8
  else some 8

def parseDate (chars : List Char) : Option (Nat × Nat × Nat) := do
  let year ← number (slice 0 4 chars)
  let hasSep := charAt 4 chars == some '-'
  let gap := if hasSep then 1 else 0
  let pos := 4 + gap
  if charAt pos chars == some 'W' then
    let week ← number (slice (pos + 1) (pos + 3) chars)
    if chars.length > pos + 3 then
      if (charAt (pos + 3) chars == some '-') != hasSep then none
      else isoweekToGregorian year week (← number (slice (pos + 3 + gap) (pos + 4 + gap) chars))
    else isoweekToGregorian year week 1
  else
    let month ← number (slice pos (pos + 2) chars)
    if (charAt (pos + 2) chars == some '-') != hasSep then none
    else
      let day ← number (slice (pos + 2 + gap) (pos + 4 + gap) chars)
      if chars.length ≤ pos + 4 + gap then some (year,month,day) else none

-- .f to .ffffff and beyond: the digits after the sixth are checked and dropped.
def parseFraction : List Char → Option Nat
  | [] => some 0
  | mark :: rest =>
    if mark != '.' && mark != ',' then none
    else if rest.all Char.isDigit then
      (number (rest.take 6)).map fun n => n * 10 ^ (6 - min 6 rest.length)
    else none

-- HH[:MM[:SS[.f+]]] and the forms without colons, in microseconds; the flag says
-- that each component is in its range.
def parseHhMmSsFf (chars : List Char) : Option (Int × Bool) := do
  let hour ← number (slice 0 2 chars)
  if chars.length < 2 then none
  else if chars.length == 2 then some (hour * 3600000000,decide (hour < 24))
  else
    let gap := if charAt 2 chars == some ':' then 1 else 0
    let minute ← (if chars.length < 4 + gap then none else number (slice (2 + gap) (4 + gap) chars))
    if chars.length == 4 + gap then
      some ((hour * 60 + minute) * 60000000,decide (hour < 24 ∧ minute < 60))
    else if gap == 1 && charAt 5 chars != some ':' then none
    else
      let start := 4 + 2 * gap
      let second ← (if chars.length < start + 2 then none else number (slice start (start + 2) chars))
      let fraction ← parseFraction (chars.drop (start + 2))
      some (((hour * 60 + minute) * 60 + second) * 1000000 + fraction,decide (hour < 24 ∧ minute < 60 ∧ second < 60))

def firstIndex (mark : Char) (chars : List Char) : Option Nat := chars.findIdx? (· == mark)

-- The wall-clock time and the offset from UTC, both in microseconds.
def parseTime (chars : List Char) : Option (Int × Option Int) := do
  let zone := ((firstIndex '-' chars).or (firstIndex '+' chars)).or (firstIndex 'Z' chars)
  match zone with
  | none =>
    let (time,valid) ← parseHhMmSsFf chars
    if valid then some (time,none) else none
  | some pos =>
    let (time,valid) ← parseHhMmSsFf (chars.take pos)
    if !valid then none
    else if charAt pos chars == some 'Z' then
      if chars.length == pos + 1 then some (time,some 0) else none
    else
      let (offset,_) ← parseHhMmSsFf (chars.drop (pos + 1))
      if offset < 86400000000 then some (time,some (if charAt pos chars == some '-' then -offset else offset)) else none

def dayMicros : Int := 86400000000

def maxInstant : Int := daysBeforeYear 10000 * dayMicros

def fromisoformat (chars : List Char) : Option (Int × Option Int) := do
  if chars.length < 7 then none
  else
    let place ← findSeparator chars
    let (year,month,day) ← parseDate (chars.take place)
    let (time,zone) ← (if (chars.drop (place + 1)).isEmpty then some (0,none) else parseTime (chars.drop (place + 1)))
    if 1 ≤ year ∧ year ≤ 9999 ∧ 1 ≤ month ∧ month ≤ 12 ∧ 1 ≤ day ∧ day ≤ daysInMonth year month then
      some (((ymd2ord year month day : Int) - 1) * dayMicros + time,zone)
    else none

-- raw_timestamp.replace("Z", "+00:00")
def expandZulu (chars : List Char) : List Char :=
  chars.flatMap fun c => if c = 'Z' then ['+','0','0',':','0','0'] else [c]

-- An instant of UTC in microseconds since 0001-01-01T00:00:00. A naive timestamp
-- is read as UTC, and one whose UTC value leaves the calendar overflows.
def parseTimestamp (raw : String) : Except Exc Int :=
  match fromisoformat (expandZulu raw.toList) with
  | none => .error ⟨.valueError,"Invalid isoformat string: " ++ quoteStr raw⟩
  | some (wall,zone) =>
    let instant := wall - zone.getD 0
    if 0 ≤ instant ∧ instant < maxInstant then .ok instant
    else .error ⟨.overflowError,"date value out of range"⟩

def padded (width n : Nat) : String :=
  let shown := Nat.toDigits 10 n
  String.ofList (List.replicate (width - shown.length) '0' ++ shown)

-- (base + timedelta(seconds=seconds)).isoformat().replace("+00:00", "Z")
def plusSecondsIso (base : Int) (seconds : Int) : Except Exc String :=
  let instant := base + seconds * 1000000
  if 0 ≤ instant ∧ instant < maxInstant then
    let days := (instant / dayMicros).toNat
    let micros := (instant % dayMicros).toNat
    let (year,month,day) := ord2ymd (days + 1)
    let date := padded 4 year ++ "-" ++ padded 2 month ++ "-" ++ padded 2 day
    let time := padded 2 (micros / 3600000000) ++ ":" ++ padded 2 (micros / 60000000 % 60) ++ ":" ++ padded 2 (micros / 1000000 % 60)
    let fraction := if micros % 1000000 = 0 then "" else "." ++ padded 6 (micros % 1000000)
    .ok (date ++ "T" ++ time ++ fraction ++ "Z")
  else .error ⟨.overflowError,"date value out of range"⟩

example : (parseTimestamp "2024-02-29T12:00:00+09:00" >>= fun base => plusSecondsIso base 86400) = .ok "2024-03-01T03:00:00Z" := by
  decide +kernel

end VeritasOs.DateTime
