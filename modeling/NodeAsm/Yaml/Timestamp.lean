import NodeAsm.Text.Numeral

/-!
# Timestamps in YAML scalars

A timestamp is a date of four, one or two, and one or two digits, alone or
followed by a time of day. The day has to exist in its month.
-/

namespace NodeAsm.Yaml

/-- The time zone of a timestamp. -/
inductive Zone where
  | universal
  /-- The zone with a distance in minutes from universal time. -/
  | distant (minutes : Int)
  deriving DecidableEq, Repr

/-- A point in time as it is written. -/
structure Timestamp where
  year : Nat
  month : Nat
  day : Nat
  hour : Nat
  minute : Nat
  second : Nat
  nanosecond : Nat
  zone : Zone
  deriving DecidableEq, Repr

namespace Timestamp

/-! ## Dates -/

/-- A number of one or two digits and what follows it. -/
def short? : Text → Option (Nat × Text)
  | [] => none
  | a :: rest =>
      if Numeral.isDigit a then
        match rest with
        | b :: rest' =>
            if Numeral.isDigit b then some (Numeral.value [a, b], rest')
            else some (Numeral.value [a], rest)
        | [] => some (Numeral.value [a], [])
      else none

/-- What follows the byte `b`. -/
def behind? (b : UInt8) : Text → Option Text
  | [] => none
  | c :: rest => if c = b then some rest else none

/-- Whether a year has a 29th of February. -/
def isLeap (year : Nat) : Bool :=
  year % 4 = 0 && (year % 100 ≠ 0 || year % 400 = 0)

/-- The number of days of a month. -/
def daysIn (year month : Nat) : Nat :=
  if month = 2 then (if isLeap year then 29 else 28)
  else if [4, 6, 9, 11].contains month then 30
  else 31

/-- The start of a day. -/
def midnight (year month day : Nat) : Timestamp :=
  ⟨year, month, day, 0, 0, 0, 0, .universal⟩

/-- The date at the start of a text, and what follows it. -/
def date? (t : Text) : Option (Timestamp × Text) := do
  let year := t.takeWhile Numeral.isDigit
  if year.length ≠ 4 then none
  else
    let year := Numeral.value year
    let rest ← behind? 0x2D (t.drop 4)
    let (month, rest) ← short? rest
    let rest ← behind? 0x2D rest
    let (day, rest) ← short? rest
    if 1 ≤ month && month ≤ 12 && 1 ≤ day && day ≤ daysIn year month then
      some (midnight year month day, rest)
    else none

/-! ## Times of day -/

/-- The nanoseconds of a fraction of a second, which may be missing, and what
follows it. Digits behind the ninth do not count. -/
def fraction : Text → Nat × Text
  | mark :: d :: rest =>
      if (mark = 0x2E || mark = 0x2C) && Numeral.isDigit d then
        let digits := ((d :: rest).takeWhile Numeral.isDigit).take 9
        (Numeral.value digits * Nat.pow 10 (9 - digits.length), rest.dropWhile Numeral.isDigit)
      else (0, mark :: d :: rest)
  | t => (0, t)

/-- The time of day at the start of a text on a given day, and what follows it. -/
def clock? (day : Timestamp) (t : Text) : Option (Timestamp × Text) := do
  let (hour, rest) ← short? t
  let rest ← behind? 0x3A rest
  let (minute, rest) ← short? rest
  let rest ← behind? 0x3A rest
  let (second, rest) ← short? rest
  if hour < 24 && minute < 60 && second < 60 then
    let (nanosecond, rest) := fraction rest
    some ({ day with
      hour := hour
      minute := minute
      second := second
      nanosecond := nanosecond }, rest)
  else none

/-- The time zone that a text denotes: `Z`, or a sign, hours and minutes. -/
def zone? : Text → Option Zone
  | [0x5A] => some .universal
  | [sign, a, b, 0x3A, c, d] =>
      let hours := Numeral.value [a, b]
      let minutes := Numeral.value [c, d]
      if (sign = 0x2B || sign = 0x2D) && [a, b, c, d].all Numeral.isDigit
          && hours ≤ 24 && minutes ≤ 60 then
        let distance : Int := 60 * hours + minutes
        some (.distant (if sign = 0x2D then -distance else distance))
      else none
  | _ => none

/-- The timestamp that a text denotes: a date, a date with a time of day behind
blanks, or a date with a time of day and a zone behind `T`. -/
def ofText? (t : Text) : Option Timestamp := do
  let (day, rest) ← date? t
  match rest with
  | [] => some day
  | mark :: rest =>
      if mark = 0x54 || mark = 0x74 then
        let (moment, rest) ← clock? day rest
        let zone ← zone? rest
        some { moment with zone := zone }
      else if mark = Text.space then
        let (moment, rest) ← clock? day (rest.dropWhile (· == Text.space))
        if rest.isEmpty then some moment else none
      else none

/-! ## Writing -/

/-- The names of the months. -/
def monthNames : List Text :=
  ["January", "February", "March", "April", "May", "June", "July", "August", "September",
   "October", "November", "December"]

/-- A time zone in a message. A zone at no distance counts as the local one. -/
def zoneText : Zone → Text
  | .universal => "time.UTC"
  | .distant minutes => if minutes = 0 then "time.Local" else "time.Location(\"\")"

/-- A timestamp in a message. -/
def text (t : Timestamp) : Text :=
  let month : Text := "time." ++ monthNames.getD (t.month - 1) []
  let clock := [t.day, t.hour, t.minute, t.second, t.nanosecond].map Numeral.ofNat
  "time.Date("
    ++ Text.joinWith ", " ([Numeral.ofNat t.year, month] ++ clock ++ [zoneText t.zone]) ++ ")"

/-! ## Comparing -/

/-- The number of days from the start of the year zero to a date. -/
def dayNumber (t : Timestamp) : Nat :=
  let leapDays := (t.year + 3) / 4 - (t.year + 99) / 100 + (t.year + 399) / 400
  let monthDays := ((List.range t.month).drop 1).foldl (fun n m => n + daysIn t.year m) 0
  365 * t.year + leapDays + monthDays + t.day

/-- The distance of a time zone from universal time in minutes. -/
def distanceOf : Zone → Int
  | .universal => 0
  | .distant minutes => minutes

/-- The number of seconds from the start of the year zero to a timestamp in
universal time. -/
def seconds (t : Timestamp) : Int :=
  86400 * (t.dayNumber : Int) + 3600 * t.hour + 60 * t.minute + t.second
    - 60 * distanceOf t.zone

/-- What orders timestamps: the fraction of a second first, then the second, then the
zone. -/
def orderKey (t : Timestamp) : List Int :=
  let zone : List Int :=
    match t.zone with
    | .universal => [0]
    | .distant minutes => if minutes = 0 then [1] else [2, minutes]
  [(t.nanosecond : Int), t.seconds] ++ zone

/-- Whether a timestamp comes before another. -/
def before (s t : Timestamp) : Bool :=
  s.orderKey < t.orderKey

/-- Whether a time zone is one of those that are the same wherever they are
written: the others are made anew each time. -/
def isSharedZone : Zone → Bool
  | .universal => true
  | .distant minutes => minutes % 60 = 0 && -720 ≤ minutes && minutes ≤ 840

/-- Whether two timestamps are equal, their zones included. -/
def equal (s t : Timestamp) : Bool :=
  s.orderKey = t.orderKey && isSharedZone s.zone

end Timestamp

end NodeAsm.Yaml
